import FormulaField.Proofs.Calendar.Texts

set_option autoImplicit false

namespace FormulaField.Calendar

open FormulaField.Number (isDigit digitValue naturalOf tenTo)
open Reader

def Gives {α : Type} (reader : Reader α) (property : α → Prop) : Prop :=
  ∀ cs a rest, reader cs = some (a, rest) → property a

theorem gives_any {α : Type} (reader : Reader α) : Gives reader fun _ => True := fun _ _ _ _ => trivial

theorem gives_bind {α β : Type} (reader : Reader α) (next : α → Reader β) (first : α → Prop) (second : β → Prop)
    (here : Gives reader first) (later : ∀ a, first a → Gives (next a) second) : Gives (reader >>= next) second := by
  intro cs b rest read
  have unfolded : (reader >>= next) cs = (reader cs).bind fun both => next both.1 both.2 := rfl
  rw [unfolded] at read
  obtain ⟨⟨a, middle⟩, readFirst, readSecond⟩ := Option.bind_eq_some_iff.mp read
  exact later a (here cs a middle readFirst) middle b rest readSecond

theorem gives_after {α β : Type} (reader : Reader α) (next : α → Reader β) (property : β → Prop)
    (later : ∀ a, Gives (next a) property) : Gives (reader >>= next) property :=
  gives_bind reader next _ property (gives_any reader) fun a _ => later a

theorem gives_lift {α : Type} (outcome : Option α) (property : α → Prop) (here : ∀ a, outcome = some a → property a) :
    Gives (StateT.lift outcome : Reader α) property := by
  intro cs a rest read
  have unfolded : (StateT.lift outcome : Reader α) cs = outcome.bind fun a => some (a, cs) := rfl
  rw [unfolded] at read
  obtain ⟨_, same, both⟩ := Option.bind_eq_some_iff.mp read
  cases both
  exact here a same

theorem digit_bound (c : Char) (digit : isDigit c = true) : digitValue c ≤ 9 := by
  have code := Text.digit_code c digit
  have zero : '0'.toNat = 48 := rfl
  simp only [Text.digitCodes, List.mem_cons, List.not_mem_nil, or_false] at code
  rw [digitValue, zero]
  omega

theorem natural_bound (ds : List Char) (n : Nat) (all : ∀ c ∈ ds, isDigit c = true) :
    ds.foldl (fun n c => 10 * n + digitValue c) n < (n + 1) * 10 ^ ds.length := by
  induction ds generalizing n with
  | nil => simp
  | cons d ds ih =>
      have digit := digit_bound d (all d (by simp))
      rw [List.foldl_cons, List.length_cons, Nat.pow_succ', ← Nat.mul_assoc]
      refine Nat.lt_of_lt_of_le (ih (10 * n + digitValue d) fun c member => all c (by simp [member])) ?_
      exact Nat.mul_le_mul_right _ (by omega)

theorem fraction_bound (ds : List Char) (all : ∀ c ∈ ds, isDigit c = true) (short : ds.length ≤ 9) :
    naturalOf ds * tenTo (9 - ds.length) < Instant.nanosPerSecond := by
  have bound := natural_bound ds 0 all
  rw [Nat.zero_add, Nat.one_mul] at bound
  calc naturalOf ds * 10 ^ (9 - ds.length)
      < 10 ^ ds.length * 10 ^ (9 - ds.length) := Nat.mul_lt_mul_of_pos_right bound (Nat.pow_pos (by decide))
    _ = 10 ^ 9 := by rw [← Nat.pow_add, Nat.add_sub_cancel' short]

theorem gives_fraction : Gives optionalFraction fun nanos => nanos < Instant.nanosPerSecond := by
  intro cs nanos rest read
  unfold optionalFraction at read
  split at read
  next more =>
    rw [fraction] at read
    split at read
    · cases read
    · cases read
      refine fraction_bound _ ?_ (List.length_take_le 9 _)
      exact fun c member => all_of_take_while isDigit more c (List.mem_of_mem_take member)
  next =>
    cases read
    decide

theorem gives_hours_and_minutes : Gives offset.hoursAndMinutes fun east => east % 60 = 0 := by
  refine gives_after _ _ _ fun hours => gives_after _ _ _ fun _ => gives_after _ _ _ fun minutes => ?_
  intro cs east rest read
  cases read
  omega

theorem gives_offset : Gives offset fun east => east % 60 = 0 := by
  intro cs east rest read
  have west : ∀ more, (offset.hoursAndMinutes more).map (fun r => (-r.1, r.2)) = some (east, rest) → east % 60 = 0 := by
    intro more found
    obtain ⟨⟨own, _⟩, inner, both⟩ := Option.map_eq_some_iff.mp found
    have minutes := gives_hours_and_minutes _ _ _ inner
    cases both
    omega
  unfold offset at read
  split at read
  · cases read
    rfl
  · cases read
    rfl
  · exact gives_hours_and_minutes _ _ _ read
  · exact west _ read
  · exact west _ read
  · cases read

theorem instant_of_proper (date : Date) (hour minute second nanos : Nat) (short : nanos < Instant.nanosPerSecond)
    (i : Instant) (made : instantOf date hour minute second nanos = some i) : i.Proper := by
  rw [instantOf] at made
  split at made
  · cases made
    rw [Instant.nanosPerSecond] at short
    by_cases sixty : second = 60
    · refine ⟨?_, fun _ => ?_⟩
      · rw [Instant.nanosPerSecond]
        simp only [sixty, if_true, Instant.ofDateTime]
        omega
      · rw [Instant.second, Instant.secondOfDay, Instant.secondsPerDay]
        simp only [sixty, if_true, Instant.ofDateTime, Instant.secondsPerDay]
        omega
    · refine ⟨?_, fun leap => ?_⟩
      · rw [Instant.nanosPerSecond]
        simp only [sixty, if_false, Instant.ofDateTime]
        omega
      · rw [Instant.IsLeapSecond, Instant.nanosPerSecond] at leap
        simp only [sixty, if_false, Instant.ofDateTime] at leap
        omega
  · cases made

theorem shifted_proper (i : Instant) (east : Int) (minutes : east % 60 = 0) (proper : i.Proper) :
    Instant.Proper { i with seconds := i.seconds - east } := by
  refine ⟨proper.bounded, fun leap => ?_⟩
  have last := proper.leap leap
  rw [Instant.second, Instant.secondOfDay, Instant.secondsPerDay] at last ⊢
  simp only at last ⊢
  omega

theorem gives_date_time : Gives dateTimeWithOffset Instant.Proper := by
  refine gives_after _ _ _ fun year => gives_after _ _ _ fun _ => gives_after _ _ _ fun month => gives_after _ _ _ fun _ =>
    gives_after _ _ _ fun day => gives_after _ _ _ fun _ => gives_after _ _ _ fun hour => gives_after _ _ _ fun _ =>
    gives_after _ _ _ fun minute => gives_after _ _ _ fun _ => gives_after _ _ _ fun second => ?_
  refine gives_bind _ _ _ _ gives_fraction fun nanos short => gives_bind _ _ _ _ gives_offset fun east minutes => ?_
  refine gives_bind _ _ Instant.Proper _ (gives_lift _ _ (instant_of_proper _ _ _ _ _ short)) fun i proper => ?_
  intro cs a rest read
  cases read
  exact shifted_proper i east minutes proper

theorem gives_date_and_second (separator : Reader Unit) : Gives (dateAndSecond separator) Instant.Proper := by
  refine gives_after _ _ _ fun date => gives_after _ _ _ fun _ => gives_after _ _ _ fun time => ?_
  refine gives_after _ _ _ fun _ => gives_after _ _ _ fun second => gives_bind _ _ _ _ gives_fraction fun nanos short => ?_
  exact gives_lift _ _ (instant_of_proper _ _ _ _ _ short)

theorem gives_date_and_minute (separator : Reader Unit) : Gives (dateAndMinute separator) Instant.Proper := by
  refine gives_after _ _ _ fun date => gives_after _ _ _ fun _ => gives_after _ _ _ fun time => ?_
  exact gives_lift _ _ (instant_of_proper _ _ _ _ _ (by decide))

theorem gives_date_only : Gives dateOnly Instant.Proper :=
  gives_after _ _ _ fun _ => gives_lift _ _ (instant_of_proper _ _ _ _ _ (by decide))

theorem wholly_proper (reader : Reader Instant) (gives : Gives reader Instant.Proper) (cs : List Char) (i : Instant)
    (read : wholly reader cs = some i) : i.Proper := by
  rw [wholly] at read
  split at read
  next found =>
    cases read
    exact gives _ _ _ found
  next => cases read

theorem of_text_proper (s : String) (i : Instant) (read : Instant.ofText? s = some i) : i.Proper := by
  obtain ⟨reader, member, found⟩ := List.exists_of_findSome?_eq_some read
  refine wholly_proper reader ?_ _ i found
  simp only [List.mem_cons, List.not_mem_nil, or_false] at member
  rcases member with rfl | rfl | rfl | rfl | rfl | rfl
  · exact gives_date_time
  · exact gives_date_and_second _
  · exact gives_date_and_second _
  · exact gives_date_and_minute _
  · exact gives_date_and_minute _
  · exact gives_date_only

end FormulaField.Calendar
