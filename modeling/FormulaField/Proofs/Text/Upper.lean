import FormulaField.Text.Case

set_option autoImplicit false

namespace FormulaField.Text

-- No common member can be seen from the ends of the runs, or from the parity of their members.
def Run.apart (a b : Run) : Bool :=
  Nat.ble (a.last + 1) b.first || Nat.ble (b.last + 1) a.first ||
    ((a.step == 2 || a.first == a.last) && b.step == 2 && (a.first + b.first) % 2 == 1)

def Run.single (code : Nat) : Run := ⟨code, code, 1⟩

def smallLetters : Run := ⟨97, 122, 1⟩

def Shift.moved (shift : Shift) : Run :=
  ⟨((shift.run.first : Int) + shift.distance).toNat, ((shift.run.last : Int) + shift.distance).toNat, shift.run.step⟩

def changedRuns (expansions : Expansions) (shifts : Shifts) : Runs :=
  expansions.map (fun entry => Run.single entry.1) ++ shifts.map (·.run)

def imageRuns (expansions : Expansions) (shifts : Shifts) : Runs :=
  (expansions.flatMap (·.2)).eraseDups.map Run.single ++ shifts.map Shift.moved

-- The images are neither small letters of ASCII nor moved again.
def settled (expansions : Expansions) (shifts : Shifts) : Bool :=
  (imageRuns expansions shifts).all fun image =>
    image.apart smallLetters && (changedRuns expansions shifts).all image.apart

def positive (shifts : Shifts) : Bool := shifts.all fun shift => 0 ≤ (shift.run.first : Int) + shift.distance

theorem entries_of_list (table : List Char) :
    entries (String.ofList table) =
      (splitAt ' ' (table.map fun c => if c = '\n' then ' ' else c)).filter (· ≠ []) := by
  simp [entries]

set_option maxRecDepth 100000 in
theorem upper_settled : settled upperExpansions upperShifts = true := by
  rw [upperExpansions, upperShifts, Shifts.ofText, Expansions.ofText, entries_of_list, entries_of_list]
  decide +kernel

set_option maxRecDepth 100000 in
theorem upper_positive : positive upperShifts = true := by
  rw [upperShifts, Shifts.ofText, entries_of_list]
  decide +kernel

theorem run_contains (run : Run) (code : Nat) :
    run.contains code = true ↔ run.first ≤ code ∧ code ≤ run.last ∧ (code - run.first) % run.step = 0 := by
  simp [Run.contains, and_assoc]

theorem single_contains (a b : Nat) : (Run.single a).contains b = true ↔ b = a := by
  simp only [run_contains, Run.single, Nat.mod_one, and_true]
  omega

theorem apart_outside (a b : Run) (code : Nat) (apart : a.apart b = true) (inside : a.contains code = true) :
    b.contains code = false := by
  rw [Bool.eq_false_iff, Ne, run_contains]
  rw [run_contains] at inside
  simp only [Run.apart, Bool.or_eq_true, Bool.and_eq_true, Nat.ble_eq, beq_iff_eq] at apart
  rintro ⟨low, high, even⟩
  rcases apart with (below | above) | ⟨⟨stepped | one, step⟩, parity⟩
  · omega
  · omega
  · rw [stepped] at inside
    rw [step] at even
    omega
  · rw [step] at even
    omega

theorem moved_contains (shift : Shift) (code : Nat) (positive : 0 ≤ (shift.run.first : Int) + shift.distance)
    (inside : shift.run.contains code = true) : shift.moved.contains ((code : Int) + shift.distance).toNat = true := by
  rw [run_contains] at inside ⊢
  obtain ⟨low, high, even⟩ := inside
  have sameDistance : ((code : Int) + shift.distance).toNat - ((shift.run.first : Int) + shift.distance).toNat =
      code - shift.run.first := by
    omega
  refine ⟨?_, ?_, ?_⟩
  · simp only [Shift.moved]
    omega
  · simp only [Shift.moved]
    omega
  · simp only [Shift.moved, sameDistance, even]

theorem map_character_fixed (expansions : Expansions) (shifts : Shifts) (c : Char)
    (outside : ∀ run ∈ changedRuns expansions shifts, run.contains c.toNat = false) :
    mapCharacter expansions shifts c = [c] := by
  have expanded : expansions.lookup c.toNat = none := by
    rw [List.lookup_eq_none_iff]
    intro entry member
    have away := outside (Run.single entry.1) (List.mem_append_left _ (List.mem_map_of_mem member))
    rw [Bool.eq_false_iff, Ne, single_contains] at away
    exact bne_iff_ne.mpr away
  have shifted : shifts.find? (·.run.contains c.toNat) = none := by
    rw [List.find?_eq_none]
    intro shift member
    have away := outside shift.run (List.mem_append_right _ (List.mem_map_of_mem member))
    simp [away]
  simp [mapCharacter, Shifts.image, expanded, shifted]

theorem map_character_image (expansions : Expansions) (shifts : Shifts) (c d : Char) (upwards : positive shifts = true)
    (member : d ∈ mapCharacter expansions shifts c) :
    mapCharacter expansions shifts c = [c] ∨
      ∃ image ∈ imageRuns expansions shifts, ∃ code, image.contains code = true ∧ d = Char.ofNat code := by
  rw [mapCharacter] at member ⊢
  cases expanded : expansions.lookup c.toNat with
  | some images =>
      simp only [expanded, List.mem_map] at member
      obtain ⟨code, isImage, same⟩ := member
      obtain ⟨others, more, split, _⟩ := List.lookup_eq_some_iff.mp expanded
      have present : (c.toNat, images) ∈ expansions := by simp [split]
      have image : code ∈ (expansions.flatMap (·.2)).eraseDups :=
        List.mem_eraseDups.mpr (List.mem_flatMap.mpr ⟨_, present, isImage⟩)
      exact .inr ⟨Run.single code, List.mem_append_left _ (List.mem_map_of_mem image), code,
        (single_contains code code).mpr rfl, same.symm⟩
  | none =>
      simp only [expanded, List.mem_singleton, Shifts.image] at member ⊢
      cases shifted : shifts.find? (·.run.contains c.toNat) with
      | none =>
          left
          simp
      | some shift =>
          have found := List.find?_some shifted
          have present := List.mem_of_find?_eq_some shifted
          rw [shifted] at member
          have low := of_decide_eq_true (List.all_eq_true.mp upwards shift present)
          exact .inr ⟨shift.moved, List.mem_append_right _ (List.mem_map_of_mem present), _,
            moved_contains shift c.toNat low found, member⟩

theorem ascii_fixed (c : Char) (ascii : isAscii c = true) (notSmall : smallLetters.contains c.toNat = false) :
    upperCharacter c = [c] := by
  have capital : ¬('a' ≤ c && c ≤ 'z') = true := by
    intro small
    rw [Bool.eq_false_iff, Ne, run_contains] at notSmall
    simp only [Bool.and_eq_true, decide_eq_true_eq, Char.le_def, UInt32.le_iff_toNat_le] at small
    exact notSmall ⟨small.1, small.2, Nat.mod_one _⟩
  rw [upperCharacter, if_pos ascii, toAsciiUpper, if_neg capital]

theorem outside_fixed (c : Char) (notSmall : smallLetters.contains c.toNat = false)
    (outside : ∀ run ∈ changedRuns upperExpansions upperShifts, run.contains c.toNat = false) :
    upperCharacter c = [c] := by
  by_cases ascii : isAscii c = true
  · exact ascii_fixed c ascii notSmall
  · rw [upperCharacter, if_neg ascii, map_character_fixed upperExpansions upperShifts c outside]

theorem image_fixed (image : Run) (code : Nat) (member : image ∈ imageRuns upperExpansions upperShifts)
    (inside : image.contains code = true) : upperCharacter (Char.ofNat code) = [Char.ofNat code] := by
  have apart := Bool.and_eq_true_iff.mp (List.all_eq_true.mp upper_settled image member)
  by_cases valid : code.isValidChar
  · have same : (Char.ofNat code).toNat = code := by
      rw [Char.ofNat, dif_pos valid]
      rfl
    refine outside_fixed _ ?_ ?_
    · rw [same]
      exact apart_outside image smallLetters code apart.1 inside
    · intro run changed
      rw [same]
      exact apart_outside image run code (List.all_eq_true.mp apart.2 run changed) inside
  · have same : Char.ofNat code = Char.ofNat 0 := by
      rw [Char.ofNat, dif_neg valid]
      rfl
    rw [same]
    exact ascii_fixed (Char.ofNat 0) (by decide) (by decide)

theorem upper_character_fixed (c d : Char) (member : d ∈ upperCharacter c) : upperCharacter d = [d] := by
  by_cases ascii : isAscii c = true
  · rw [upperCharacter, if_pos ascii, List.mem_singleton] at member
    have below : c.toNat < 128 := by simpa [isAscii] using ascii
    have codes : (List.range 128).all (fun code =>
        isAscii (toAsciiUpper (Char.ofNat code)) && !smallLetters.contains (toAsciiUpper (Char.ofNat code)).toNat) = true := by
      decide
    have facts := List.all_eq_true.mp codes c.toNat (List.mem_range.mpr below)
    rw [Char.ofNat_toNat, ← member, Bool.and_eq_true, Bool.not_eq_true'] at facts
    exact ascii_fixed d facts.1 facts.2
  · have mapped : upperCharacter c = mapCharacter upperExpansions upperShifts c := by
      rw [upperCharacter, if_neg ascii]
    rw [mapped] at member
    rcases map_character_image upperExpansions upperShifts c d upper_positive member with same | ⟨image, isImage, code, inside, rfl⟩
    · rw [same, List.mem_singleton] at member
      rw [member, mapped, same]
    · exact image_fixed image code isImage inside

theorem upper_fixed (cs : List Char) (fixed : ∀ c ∈ cs, upperCharacter c = [c]) : upper cs = cs := by
  induction cs with
  | nil => rfl
  | cons c rest ih =>
      have others := ih (fun d member => fixed d (List.mem_cons_of_mem c member))
      rw [upper] at others
      rw [upper, List.flatMap_cons, fixed c (by simp), others]
      rfl

theorem upper_upper (cs : List Char) : upper (upper cs) = upper cs := by
  refine upper_fixed (upper cs) ?_
  intro d member
  rw [upper, List.mem_flatMap] at member
  obtain ⟨c, _, image⟩ := member
  exact upper_character_fixed c d image

end FormulaField.Text
