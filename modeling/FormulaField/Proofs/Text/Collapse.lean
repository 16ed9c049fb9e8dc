import FormulaField.Proofs.Formula.Tokens
import FormulaField.Proofs.Text.Characters

set_option autoImplicit false

namespace FormulaField.Text

-- What was read in front of a character.
inductive Behind where
  | nothing
  | text
  | space

namespace Behind

def spaced : Behind → Behind
  | nothing => nothing
  | _ => space

def gap : Behind → List Char
  | space => [' ']
  | _ => []

theorem gap_white (behind : Behind) : White behind.gap := by
  cases behind <;> simp [White, gap, isWhite]

end Behind

def squeeze (behind : Behind) : List Char → List Char
  | [] => []
  | c :: cs => if isWhite c then squeeze behind.spaced cs else behind.gap ++ c :: squeeze .text cs

theorem squeeze_white (behind : Behind) (c : Char) (cs : List Char) (white : isWhite c = true) :
    squeeze behind (c :: cs) = squeeze behind.spaced cs := by
  rw [squeeze, if_pos white]

theorem squeeze_ink (behind : Behind) (c : Char) (cs : List Char) (ink : isWhite c = false) :
    squeeze behind (c :: cs) = behind.gap ++ c :: squeeze .text cs := by
  rw [squeeze, if_neg (by simp [ink])]

theorem words_nil : words [] = [] := rfl

theorem words_cons (c : Char) (rest : List Char) :
    words (c :: rest) =
      if isWhite c then words rest
      else match rest, words rest with
        | next :: _, word :: more => if isWhite next then [c] :: word :: more else (c :: word) :: more
        | _, more => [c] :: more := rfl

theorem words_white (c : Char) (cs : List Char) (white : isWhite c = true) : words (c :: cs) = words cs := by
  rw [words_cons, if_pos white]

theorem words_single (c : Char) (ink : isWhite c = false) : words [c] = [[c]] := by
  rw [words_cons, if_neg (by simp [ink]), words_nil]

theorem words_before_white (c d : Char) (cs : List Char) (ink : isWhite c = false) (white : isWhite d = true) :
    words (c :: d :: cs) = [c] :: words cs := by
  rw [words_cons, if_neg (by simp [ink]), words_white d cs white]
  cases words cs with
  | nil => rfl
  | cons word more => exact if_pos white

theorem words_nonempty (c : Char) (cs : List Char) (ink : isWhite c = false) : words (c :: cs) ≠ [] := by
  rw [words_cons, if_neg (by simp [ink])]
  split
  · split <;> exact List.cons_ne_nil _ _
  · exact List.cons_ne_nil _ _

theorem words_before_ink (c d : Char) (cs : List Char) (cInk : isWhite c = false) (dInk : isWhite d = false) :
    ∃ word more, words (d :: cs) = word :: more ∧ words (c :: d :: cs) = (c :: word) :: more := by
  obtain ⟨word, more, found⟩ := List.exists_cons_of_ne_nil (words_nonempty d cs dInk)
  refine ⟨word, more, found, ?_⟩
  rw [words_cons, if_neg (by simp [cInk]), found]
  exact if_neg (by simp [dInk])

theorem collapse_white (c : Char) (cs : List Char) (white : isWhite c = true) : collapse (c :: cs) = collapse cs := by
  rw [collapse, collapse, words_white c cs white]

theorem join_cons (c : Char) (word : List Char) (more : List (List Char)) :
    joinWith [' '] ((c :: word) :: more) = c :: joinWith [' '] (word :: more) := by
  cases more <;> simp [joinWith, List.intercalate]

theorem join_first (word : List Char) (more : List (List Char)) (nonempty : more ≠ []) :
    joinWith [' '] (word :: more) = word ++ ' ' :: joinWith [' '] more := by
  cases more with
  | nil => exact absurd rfl nonempty
  | cons next others => simp [joinWith, List.intercalate]

theorem collapse_next (cs : List Char) :
    squeeze .space cs = (if words cs = [] then [] else ' ' :: collapse cs) ∧
      ∀ c, isWhite c = false → collapse (c :: cs) = c :: squeeze .text cs := by
  induction cs with
  | nil =>
      refine ⟨rfl, ?_⟩
      intro c ink
      rw [collapse, words_single c ink]
      simp [joinWith, squeeze]
  | cons d rest ih =>
      obtain ⟨spaced, next⟩ := ih
      cases white : isWhite d with
      | true =>
          rw [squeeze_white .space d rest white, words_white d rest white, collapse_white d rest white]
          refine ⟨spaced, ?_⟩
          intro c ink
          have later : squeeze .text (d :: rest) = squeeze .space rest := squeeze_white .text d rest white
          rw [later, spaced, collapse, words_before_white c d rest ink white]
          by_cases last : words rest = []
          · simp [last, joinWith]
          · rw [if_neg last, join_first [c] (words rest) last]
            rfl
      | false =>
          rw [squeeze_ink .space d rest white, if_neg (words_nonempty d rest white), next d white]
          refine ⟨rfl, ?_⟩
          intro c ink
          obtain ⟨word, more, found, both⟩ := words_before_ink c d rest ink white
          rw [collapse, both, join_cons, ← found, squeeze_ink .text d rest white]
          exact congrArg (c :: ·) (next d white)

theorem collapse_squeeze (cs : List Char) : collapse cs = squeeze .nothing cs := by
  induction cs with
  | nil => rfl
  | cons c rest ih =>
      cases white : isWhite c with
      | true =>
          rw [collapse_white c rest white, squeeze_white .nothing c rest white]
          exact ih
      | false =>
          rw [squeeze_ink .nothing c rest white]
          exact (collapse_next rest).2 c white

theorem squeeze_white_run (behind : Behind) (white cs : List Char) (isWhite : White white) :
    ∃ later, squeeze behind (white ++ cs) = squeeze later cs := by
  induction white generalizing behind with
  | nil => exact ⟨behind, rfl⟩
  | cons c rest ih =>
      obtain ⟨later, same⟩ := ih behind.spaced (fun d member => isWhite d (List.mem_cons_of_mem c member))
      exact ⟨later, (squeeze_white behind c (rest ++ cs) (isWhite c (by simp))).trans same⟩

structure Solid (cs : List Char) : Prop where
  nonempty : cs ≠ []
  ink : ∀ c ∈ cs, isWhite c = false

theorem solid_of_all (cs : List Char) (nonempty : cs ≠ []) (ink : cs.all (fun c => !isWhite c) = true) : Solid cs :=
  ⟨nonempty, by simpa using ink⟩

theorem squeeze_solid (behind : Behind) (cs ds : List Char) (solid : Solid cs) :
    squeeze behind (cs ++ ds) = behind.gap ++ (cs ++ squeeze .text ds) := by
  obtain ⟨nonempty, ink⟩ := solid
  induction cs generalizing behind with
  | nil => exact absurd rfl nonempty
  | cons c rest ih =>
      rw [List.cons_append, squeeze_ink behind c (rest ++ ds) (ink c (by simp))]
      cases rest with
      | nil => rfl
      | cons d more =>
          rw [ih .text (List.cons_ne_nil d more) (fun d member => ink d (List.mem_cons_of_mem c member))]
          rfl

theorem squeeze_alone (behind : Behind) (cs : List Char) (solid : Solid cs) :
    squeeze behind cs = behind.gap ++ cs := by
  have kept := squeeze_solid behind cs [] solid
  rwa [List.append_nil, squeeze, List.append_nil] at kept

theorem squeeze_token (behind : Behind) (white cs ds : List Char) (isWhite : White white) (solid : Solid cs) :
    ∃ gap, White gap ∧ squeeze behind (white ++ (cs ++ ds)) = gap ++ (cs ++ squeeze .text ds) := by
  obtain ⟨later, skipped⟩ := squeeze_white_run behind white (cs ++ ds) isWhite
  exact ⟨later.gap, later.gap_white, skipped.trans (squeeze_solid later cs ds solid)⟩

def EndsInk (cs : List Char) : Prop := ∃ before c, cs = before ++ [c] ∧ isWhite c = false

theorem ends_behind (cs ds : List Char) (ends : EndsInk ds) : EndsInk (cs ++ ds) := by
  obtain ⟨before, c, rfl, ink⟩ := ends
  exact ⟨cs ++ before, c, (List.append_assoc cs before [c]).symm, ink⟩

theorem ends_last (cs : List Char) (nonempty : cs ≠ []) (last : ∀ c ∈ cs.getLast?, isWhite c = false) :
    EndsInk cs :=
  ⟨cs.dropLast, cs.getLast nonempty, (List.dropLast_concat_getLast nonempty).symm,
    last _ (List.getLast?_eq_some_getLast nonempty)⟩

theorem ends_solid (cs : List Char) (solid : Solid cs) : EndsInk cs :=
  ends_last cs solid.nonempty (fun c last => solid.ink c (List.mem_of_getLast? last))

theorem ends_tail (c : Char) (cs : List Char) (ends : EndsInk (c :: cs)) :
    cs = [] ∧ isWhite c = false ∨ EndsInk cs := by
  obtain ⟨before, d, split, ink⟩ := ends
  cases before with
  | nil =>
      cases split
      exact .inl ⟨rfl, ink⟩
  | cons e rest =>
      cases split
      exact .inr ⟨rest, d, rfl, ink⟩

theorem squeeze_append (behind : Behind) (cs ds : List Char) (ends : EndsInk cs) :
    squeeze behind (cs ++ ds) = squeeze behind cs ++ squeeze .text ds := by
  obtain ⟨before, c, rfl, ink⟩ := ends
  induction before generalizing behind with
  | nil =>
      rw [List.nil_append, List.singleton_append, squeeze_ink behind c ds ink, squeeze_ink behind c [] ink]
      simp [squeeze]
  | cons d rest ih =>
      cases white : isWhite d with
      | true =>
          rw [List.cons_append, List.cons_append, squeeze_white behind d _ white, squeeze_white behind d _ white]
          exact ih behind.spaced
      | false =>
          rw [List.cons_append, List.cons_append, squeeze_ink behind d _ white, squeeze_ink behind d _ white, ih .text]
          simp

theorem squeeze_joined (behind : Behind) (cs white ds : List Char) (mark : Char) (ends : EndsInk cs)
    (isWhite : White white) (ink : Text.isWhite mark = false) :
    ∃ gap, White gap ∧
      squeeze behind (cs ++ white ++ mark :: ds) = squeeze behind cs ++ gap ++ mark :: squeeze .text ds := by
  obtain ⟨later, skipped⟩ := squeeze_white_run .text white (mark :: ds) isWhite
  refine ⟨later.gap, later.gap_white, ?_⟩
  rw [List.append_assoc, squeeze_append behind cs _ ends, skipped, squeeze_ink later mark ds ink, List.append_assoc]

def SpacedAt (place : List Char → Prop) (cs : List Char) : Prop :=
  ∀ before run after, cs = before ++ run ++ after → place before → White run → run = [] ∨ run = [' ']

def SingleSpaced (cs : List Char) : Prop := SpacedAt (fun _ => True) cs

theorem spaced_at_nil (place : List Char → Prop) : SpacedAt place [] := by
  intro before run after split _ _
  simp only [List.nil_eq, List.append_eq_nil_iff] at split
  exact .inl split.1.2

theorem spaced_at_cons (place : List Char → Prop) (c : Char) (cs : List Char) :
    SpacedAt place (c :: cs) ↔
      (place [] → isWhite c = true → c = ' ' ∧ ∀ d ∈ cs.head?, isWhite d = false) ∧
        SpacedAt (fun before => place (c :: before)) cs := by
  constructor
  · intro spaced
    refine ⟨?_, fun before run after split => spaced (c :: before) run after (congrArg (c :: ·) split)⟩
    intro here white
    refine ⟨by simpa using spaced [] [c] cs rfl here (by simpa [White] using white), ?_⟩
    intro d next
    obtain ⟨rest, rfl⟩ := List.head?_eq_some_iff.mp next
    cases other : isWhite d with
    | false => rfl
    | true =>
        have two := spaced [] [c, d] rest rfl here (by simp [White, white, other])
        simp at two
  · rintro ⟨first, later⟩ before run after split here isWhite
    cases before with
    | cons b more =>
        cases split
        exact later more run after rfl here isWhite
    | nil =>
        cases run with
        | nil => exact .inl rfl
        | cons d more =>
            cases split
            obtain ⟨space, ink⟩ := first here (isWhite c (by simp))
            cases more with
            | nil => exact .inr (by rw [space])
            | cons e others =>
                have white := isWhite e (by simp)
                rw [ink e rfl] at white
                cases white

instance decidableSpacedAt :
    (place : List Char → Prop) → [DecidablePred place] → (cs : List Char) → Decidable (SpacedAt place cs)
  | place, _, [] => isTrue (spaced_at_nil place)
  | place, _, c :: cs =>
      have : Decidable (SpacedAt (fun before => place (c :: before)) cs) := decidableSpacedAt _ cs
      have : Decidable (∀ d ∈ cs.head?, isWhite d = false) := Option.decidableForallMem cs.head?
      decidable_of_iff' _ (spaced_at_cons place c cs)

instance (cs : List Char) : Decidable (SingleSpaced cs) := decidableSpacedAt _ cs

theorem spaced_ink (c : Char) (cs : List Char) (ink : isWhite c = false) (spaced : SingleSpaced cs) :
    SingleSpaced (c :: cs) :=
  (spaced_at_cons _ c cs).mpr ⟨fun _ white => by simp [ink] at white, spaced⟩

-- Where all white space is single and inside, nothing is collapsed.
theorem squeeze_spaced (cs : List Char) (spaced : SingleSpaced cs) (ends : EndsInk cs) : squeeze .text cs = cs := by
  induction cs with
  | nil => rfl
  | cons c rest ih =>
      obtain ⟨single, others⟩ := (spaced_at_cons _ c rest).mp spaced
      rcases ends_tail c rest ends with ⟨rfl, ink⟩ | later
      · exact squeeze_ink .text c [] ink
      have fixed := ih others later
      cases white : isWhite c with
      | false =>
          rw [squeeze_ink .text c rest white, fixed]
          rfl
      | true =>
          obtain ⟨rfl, next⟩ := single trivial white
          cases rest with
          | nil => simp [EndsInk] at later
          | cons d more =>
              rw [squeeze_ink .text d more (next d rfl)] at fixed
              rw [squeeze_white .text ' ' _ white, squeeze_ink _ d more (next d rfl)]
              exact congrArg (' ' :: ·) fixed

theorem squeeze_phrase (behind : Behind) (cs : List Char) (start : ∀ c ∈ cs.head?, isWhite c = false)
    (spaced : SingleSpaced cs) (ends : EndsInk cs) : squeeze behind cs = behind.gap ++ cs := by
  cases cs with
  | nil => simp [EndsInk] at ends
  | cons c rest =>
      have fixed := squeeze_spaced (c :: rest) spaced ends
      rw [squeeze_ink .text c rest (start c rfl)] at fixed
      rw [squeeze_ink behind c rest (start c rfl)]
      exact congrArg (behind.gap ++ ·) fixed

-- No white space at the ends, and single spaces between words.
structure Tidy (cs : List Char) : Prop where
  start : ∀ c ∈ cs.head?, isWhite c = false
  stop : ∀ c ∈ cs.getLast?, isWhite c = false
  spaced : SingleSpaced cs

theorem squeeze_start (cs : List Char) : ∀ c ∈ (squeeze .nothing cs).head?, isWhite c = false := by
  induction cs with
  | nil => simp [squeeze]
  | cons c rest ih =>
      cases white : isWhite c with
      | true =>
          rw [squeeze_white .nothing c rest white]
          exact ih
      | false =>
          rw [squeeze_ink .nothing c rest white]
          simpa [Behind.gap] using white

theorem squeeze_single (behind : Behind) (cs : List Char) : SingleSpaced (squeeze behind cs) := by
  induction cs generalizing behind with
  | nil => exact spaced_at_nil _
  | cons c rest ih =>
      cases white : isWhite c with
      | true =>
          rw [squeeze_white behind c rest white]
          exact ih behind.spaced
      | false =>
          have text := spaced_ink c _ white (ih .text)
          rw [squeeze_ink behind c rest white]
          cases behind with
          | nothing => exact text
          | text => exact text
          | space => exact (spaced_at_cons _ ' ' _).mpr ⟨fun _ _ => ⟨rfl, by simpa using white⟩, text⟩

theorem squeeze_ends (behind : Behind) (cs : List Char) : squeeze behind cs = [] ∨ EndsInk (squeeze behind cs) := by
  induction cs generalizing behind with
  | nil => exact .inl rfl
  | cons c rest ih =>
      cases white : isWhite c with
      | true =>
          rw [squeeze_white behind c rest white]
          exact ih behind.spaced
      | false =>
          rw [squeeze_ink behind c rest white]
          refine .inr (ends_behind behind.gap _ ?_)
          rcases ih .text with last | ends
          · exact ⟨[], c, by rw [last, List.nil_append], white⟩
          · exact ends_behind [c] _ ends

theorem collapse_tidy (cs : List Char) : Tidy (collapse cs) := by
  rw [collapse_squeeze]
  refine ⟨squeeze_start cs, ?_, squeeze_single .nothing cs⟩
  rcases squeeze_ends .nothing cs with nothing | ⟨before, c, split, ink⟩
  · simp [nothing]
  · simpa [split] using ink

theorem tidy_collapse (cs : List Char) (tidy : Tidy cs) : collapse cs = cs := by
  rw [collapse_squeeze]
  by_cases nonempty : cs = []
  · rw [nonempty]
    rfl
  · exact squeeze_phrase .nothing cs tidy.start tidy.spaced (ends_last cs nonempty tidy.stop)

theorem trim_split (cs : List Char) :
    ∃ first last, White first ∧ White last ∧ cs = first ++ (trim cs ++ last) := by
  refine ⟨cs.takeWhile isWhite, (trimStart cs).rtakeWhile isWhite, white_take_while cs, ?_, ?_⟩
  · exact fun c member => List.mem_rtakeWhile_imp member
  · rw [trim, trimEnd, ← List.rdropWhile, List.rdropWhile_append_rtakeWhile, trimStart,
      List.takeWhile_append_dropWhile]

theorem white_of_trim (cs : List Char) (blank : trim cs = []) : White cs := by
  obtain ⟨first, last, firstWhite, lastWhite, split⟩ := trim_split cs
  rw [split, blank]
  exact white_append first last firstWhite lastWhite

theorem trim_start (cs : List Char) : ∀ c ∈ (trim cs).head?, isWhite c = false := by
  intro c member
  rw [← trim_start_fixed cs (trim cs) (trim_initial cs)] at member
  exact stops_drop_while isWhite (trim cs) c member

theorem trim_stop (cs : List Char) : ∀ c ∈ (trim cs).getLast?, isWhite c = false := by
  intro c member
  rw [trim, trimEnd, List.getLast?_reverse] at member
  exact stops_drop_while isWhite (trimStart cs).reverse c member

theorem trim_end_white (cs white : List Char) (isWhite : White white) : trimEnd (cs ++ white) = trimEnd cs := by
  rw [trimEnd, trimEnd, List.reverse_append, List.dropWhile_append_of_pos]
  intro c member
  exact isWhite c (List.mem_reverse.mp member)

theorem trim_between (first cs last : List Char) (firstWhite : White first) (lastWhite : White last) :
    trim (first ++ (cs ++ last)) = trim cs := by
  have nothing : trimStart last = [] := List.dropWhile_eq_nil_iff.mpr lastWhite
  rw [trim, trimStart, List.dropWhile_append_of_pos firstWhite, List.dropWhile_append, trim, ← trimStart, ← trimStart]
  by_cases blank : trimStart cs = []
  · rw [if_pos (by rw [blank]; rfl), nothing, blank]
  · rw [if_neg (by simpa using blank), trim_end_white _ last lastWhite]

theorem squeeze_trimmed (behind : Behind) (content ds : List Char) (d : Char) (ink : isWhite d = false)
    (spaced : SingleSpaced (trim content)) :
    ∃ first last, White first ∧ White last ∧
      squeeze behind (content ++ d :: ds) = first ++ (trim content ++ last) ++ d :: squeeze .text ds := by
  obtain ⟨space, more, spaceWhite, moreWhite, split⟩ := trim_split content
  obtain ⟨later, skipped⟩ := squeeze_white_run behind space (trim content ++ (more ++ d :: ds)) spaceWhite
  have text : content ++ d :: ds = space ++ (trim content ++ (more ++ d :: ds)) := by
    rw [split, trim_between space _ more spaceWhite moreWhite, trim_trim]
    simp
  rw [text, skipped]
  by_cases blank : trim content = []
  · obtain ⟨last, skippedMore⟩ := squeeze_white_run later more (d :: ds) moreWhite
    refine ⟨last.gap, [], last.gap_white, by simp [White], ?_⟩
    rw [blank, List.nil_append, skippedMore, squeeze_ink last d ds ink]
    simp
  · have ends := ends_last (trim content) blank (trim_stop content)
    obtain ⟨last, skippedMore⟩ := squeeze_white_run .text more (d :: ds) moreWhite
    refine ⟨later.gap, last.gap, later.gap_white, last.gap_white, ?_⟩
    rw [squeeze_append later _ _ ends, squeeze_phrase later _ (trim_start content) spaced ends, skippedMore,
      squeeze_ink last d ds ink]
    simp

end FormulaField.Text
