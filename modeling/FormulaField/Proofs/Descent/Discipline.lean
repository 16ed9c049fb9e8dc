import FormulaField.Proofs.Descent.Agreement

set_option autoImplicit false

namespace FormulaField

namespace Cursor

theorem passed_further (before after : Cursor) (cs : List Char) (names : List String)
    (passed : before.Passed cs names after) (nonempty : cs ≠ []) : before.position < after.position := by
  obtain ⟨c, rest, rfl⟩ := List.exists_cons_of_ne_nil nonempty
  have size := c.utf8Size_pos
  rw [passed.position, byteLength]
  omega

end Cursor

namespace Descent

open Program (call)

theorem written_nonempty (n : Nat) (phrase : Phrase) (cs : List Char)
    (notRest : ∀ kind left f, phrase ≠ .rest kind left f) (written : Written n phrase cs) : cs ≠ [] := by
  obtain ⟨white, c, rest, rfl, _, _⟩ := written_opens n phrase cs notRest written
  exact List.append_ne_nil_of_right_ne_nil _ (List.cons_ne_nil c rest)

theorem sound_further (n : Nat) (phrase : Formula → Phrase) (p : Parser Formula) (sound : Sound n phrase [] p)
    (notRest : ∀ g kind left f, phrase g ≠ .rest kind left f) (before after : Cursor) (f : Formula)
    (ran : p.run before = .ok f after) : before.position < after.position := by
  obtain ⟨cs, white, written, _, passed⟩ := sound_passed n phrase p sound before after f ran
  refine Cursor.passed_further before after _ _ passed ?_
  exact List.append_ne_nil_of_left_ne_nil (written_nonempty n _ cs (notRest f) written) white

theorem arguments_further (n : Nat) (before after : Cursor) (fs : List Formula)
    (ran : (Parser.arguments (below n)).run before = .ok fs after) : before.position < after.position := by
  obtain ⟨taken, middle, ate, rest⟩ := Parser.bind_ok _ _ before after fs ran
  obtain ⟨white, _, passed⟩ := Parser.eat_passed [')'] before middle taken ate
  cases taken with
  | true =>
      cases rest
      exact Cursor.passed_further before _ _ _ passed (by simp)
  | false =>
      rw [if_neg Bool.false_ne_true] at rest
      obtain ⟨level, entered, descended, inside⟩ := Parser.bind_ok _ _ middle after fs rest
      obtain ⟨m, rfl, sound, rfl⟩ := descend_sound (below n) n middle entered level (below_sound n) descended
      obtain ⟨chars, same, read, listed⟩ := Parser.bind_ok _ _ entered after fs inside
      cases read
      obtain ⟨cs, written, further⟩ := items_sound m _ (sound.chain .comparisons) _ entered after fs listed
      have all := Cursor.passed_trans before entered after _ _ _ _ passed further
      refine Cursor.passed_further before after _ _ all ?_
      exact List.append_ne_nil_of_right_ne_nil _ (written_nonempty m _ cs (by simp) written)

theorem procedure_further (n : Nat) (p : Procedure) (before after : Cursor) (f : Formula)
    (ran : (p.parserAt n).run before = .ok f after) : before.position < after.position := by
  cases p with
  | chain kind => exact sound_further n (.chain kind) _ ((level_sound n).chain kind) (by simp) before after f ran
  | power => exact sound_further n .power _ (power_sound _ n (below_sound n)) (by simp) before after f ran
  | unary => exact sound_further n .unary _ (unary_sound _ n (below_sound n)) (by simp) before after f ran
  | primary => exact sound_further n .unary _ (primary_sound _ n (below_sound n)) (by simp) before after f ran
  | arguments name =>
      obtain ⟨fs, last, listed, finished⟩ := Parser.bind_ok _ _ before after f ran
      cases finished
      exact arguments_further n before _ fs listed

variable {text : String} {known : Names}

theorem fit_cursor (place : Place) (fits : Fit text known place) :
    ∃ n c, Inside text place.dependencies n c ∧ placeOf n c = place := by
  obtain ⟨parts, cut⟩ := (cut_iff_position text place.position).mpr fits.boundary
  obtain ⟨split, length⟩ := cut_split place.position text.toList parts cut
  refine ⟨Parser.maxDepth - place.depth, ⟨parts.2, place.position, place.dependencies.toList⟩,
    ⟨⟨parts.1, split, length⟩, Nat.sub_le _ _, fun name member => Std.ExtTreeSet.mem_toList.mpr member⟩, ?_⟩
  have names : Names.ofList place.dependencies.toList = place.dependencies := by
    apply Std.ExtTreeSet.ext_mem
    intro name
    rw [mem_names_of_list, Std.ExtTreeSet.mem_toList]
  rw [placeOf, names, Nat.sub_sub_self fits.depth]

def Returns (text : String) (place : Place) (p : Procedure) (stack : Stack Formula) : Prop :=
  ∃ n result after, Leads (body text) n ⟨place, .call p, stack⟩ ⟨after, .ended result, stack⟩ ∧
    (∀ name ∈ place.dependencies, name ∈ after.dependencies) ∧
    ∀ f, result = .ok f → place.position < after.position ∧ after.depth = place.depth

theorem call_returns (place : Place) (fits : Fit text known place) (p : Procedure) (stack : Stack Formula) :
    Returns text place p stack := by
  obtain ⟨n, c, inside, rfl⟩ := fit_cursor place fits
  obtain ⟨m, _, leads, reached, result, after, rfl, ended⟩ :=
    arrives_leads _ ((level_agreed text _ n).procedure p c inside stack)
  refine ⟨m, result, after, leads, reached.known, ?_⟩
  rintro f rfl
  cases ran : (p.parserAt n).run c with
  | ok g last =>
      rw [ran] at ended
      obtain ⟨same, _, rfl, _, rfl⟩ := ended
      cases same
      exact ⟨procedure_further _ p c last f ran, rfl⟩
  | error e last =>
      rw [ran] at ended
      cases ended.1

theorem start_arrives (s : String) : Arrives (body s) (Fit s ∅)
    (Returned .empty fun result place => result = (parse s).result ∧ place.dependencies = (parse s).dependencies)
    (start s) := by
  have inside : Inside s ∅ Parser.maxDepth (Cursor.start s.toList) :=
    ⟨⟨[], rfl, rfl⟩, Nat.le_refl _, fun name member => absurd member Std.ExtTreeSet.not_mem_empty⟩
  refine arrives_trans _ (formula_agrees inside .empty) ?_
  rintro c fits ⟨result, place, rfl, ended⟩
  refine .here _ fits ⟨result, place, rfl, ?_⟩
  rw [parse, parseChars]
  cases ran : Parser.formula.run (Cursor.start s.toList) with
  | ok f last =>
      rw [ran] at ended
      obtain ⟨rfl, _, rfl, _, rfl⟩ := ended
      exact ⟨rfl, rfl⟩
  | error e last =>
      rw [ran] at ended
      exact ended

theorem returned_finished (post : Except ParseError Formula → Place → Prop) (c : Config)
    (returned : Returned .empty post c) (body : Procedure → Program Formula) :
    ∃ result, step body c = .finished result c.place ∧ post result c.place := by
  obtain ⟨result, place, rfl, holds⟩ := returned
  cases result with
  | ok f => exact ⟨.ok f, rfl, holds⟩
  | error e => exact ⟨.error e, rfl, holds⟩

theorem start_leads (s : String) (n : Nat) (c : Config) (leads : Leads (body s) n (start s) c) :
    Fit s ∅ c.place ∧ step (body s) c ≠ .broken := by
  have arrives := leads_arrives n (start s) c (fun last next returned stepped => by
    obtain ⟨result, finished, _⟩ := returned_finished _ last returned (body s)
    rw [finished] at stepped
    cases stepped) (start_arrives s) leads
  refine ⟨arrives_fit c arrives, fun broken => ?_⟩
  cases arrives with
  | here _ _ returned =>
      obtain ⟨result, finished, _⟩ := returned_finished _ c returned (body s)
      rw [finished] at broken
      cases broken
  | step _ next _ stepped _ =>
      rw [stepped] at broken
      cases broken

-- Whatever the text is, reading it ends with what the parser gives for it. On the way every place lies between two
-- characters of the text, no step breaks off, and every call comes back.
theorem descent_disciplined (s : String) :
    (∃ n last, Leads (body s) n (start s) last ∧ step (body s) last = .finished (parse s).result last.place ∧
      last.place.dependencies = (parse s).dependencies) ∧
    (∀ n c, Leads (body s) n (start s) c →
      String.Pos.Raw.IsValid s ⟨c.place.position⟩ ∧ c.place.position ≤ s.utf8ByteSize ∧
        c.place.depth ≤ Parser.maxDepth ∧ step (body s) c ≠ .broken) ∧
    ∀ n place p stack, Leads (body s) n (start s) ⟨place, .call p, stack⟩ → Returns s place p stack := by
  refine ⟨?_, ?_, ?_⟩
  · obtain ⟨n, last, leads, _, returned⟩ := arrives_leads _ (start_arrives s)
    obtain ⟨_, finished, rfl, dependencies⟩ := returned_finished _ last returned (body s)
    exact ⟨n, last, leads, finished, dependencies⟩
  · intro n c leads
    obtain ⟨fits, unbroken⟩ := start_leads s n c leads
    exact ⟨fits.boundary, fits.boundary.le_utf8ByteSize, fits.depth, unbroken⟩
  · intro n place p stack leads
    exact call_returns place (start_leads s n _ leads).1 p stack

-- The reference is open, and é takes two bytes. The first step calls for the whole formula.
theorem open_reference_disciplined :
    (∃ n last, Leads (body "2^\x7bé") n (start "2^\x7bé") last ∧
      step (body "2^\x7bé") last = .finished (.error (.unterminatedFieldReference 2)) last.place) ∧
      ∃ stack, Leads (body "2^\x7bé") 1 (start "2^\x7bé") ⟨⟨0, 0, ∅⟩, .call (.chain .comparisons), stack⟩ ∧
        Returns "2^\x7bé" ⟨0, 0, ∅⟩ (.chain .comparisons) stack := by
  obtain ⟨⟨n, last, leads, finished, _⟩, _, returns⟩ := descent_disciplined "2^\x7bé"
  have rejected : (parse "2^\x7bé").result = .error (.unterminatedFieldReference 2) := rfl
  obtain ⟨stack, called⟩ : ∃ stack, Leads (body "2^\x7bé") 1 (start "2^\x7bé")
      ⟨⟨0, 0, ∅⟩, .call (.chain .comparisons), stack⟩ := ⟨_, .step 0 _ _ _ rfl (.here _)⟩
  rw [rejected] at finished
  exact ⟨⟨n, last, leads, finished⟩, stack, called, returns 1 _ _ _ called⟩

end Descent

end FormulaField
