import SelectorTutorial.Text.Blank

/-! Small letters and capitals. -/

namespace SelectorTutorial

namespace Text

/-- A character stays as it is in small letters, or it is a capital and moves up by 32. -/
theorem toLower_cases (c : Char) :
    c.toLower = c ∨ 65 ≤ c.toNat ∧ c.toNat ≤ 90 ∧ c.toLower.toNat = c.toNat + 32 := by
  -- By whether the character is a capital.
  unfold Char.toLower
  split
  · next capital =>
    -- The sum of a capital and 32 stays below the bound of the words that hold characters.
    have least : 65 ≤ c.toNat := capital.1
    have most : c.toNat ≤ 90 := capital.2
    have moved : c.toNat + 32 < 2 ^ 32 := by omega
    refine .inr ⟨least, most, ?_⟩
    change (c.val + 32).toNat = c.toNat + 32
    rw [UInt32.toNat_add]
    exact Nat.mod_eq_of_lt moved
  · exact .inl rfl

/-- What is below the small letters comes from itself only. -/
theorem eq_of_toLower_eq {c d : Char} (lower : c.toLower = d) (below : d.toNat < 97) : c = d := by
  -- A capital moves up to the small letters, and any other character stays.
  rcases toLower_cases c with same | ⟨least, most, moved⟩
  · rw [← same, lower]
  · rw [lower] at moved
    omega

/-- A text is the small form of some characters when each of its characters is that of one of
them. -/
theorem lowerAscii_eq_iff {cs : List Char} {s : String} :
    lowerAscii (.ofList cs) = s ↔ cs.map Char.toLower = s.toList := by
  -- Texts are compared by their characters.
  rw [lowerAscii, String.toList_ofList, ← String.toList_inj, String.toList_ofList]

/-- What is below the capitals stays, and comes from itself only. -/
theorem toLower_eq_iff {c d : Char} (below : d.toNat < 65) : c.toLower = d ↔ c = d := by
  -- A character below the capitals is no capital.
  constructor
  · exact fun lower => eq_of_toLower_eq lower (by omega)
  · rintro rfl
    rcases toLower_cases c with same | ⟨least, -, -⟩
    · exact same
    · omega

/-- What was put in small letters is not changed by doing so again. -/
theorem lowerAscii_map_toLower (cs : List Char) :
    lowerAscii (.ofList (cs.map Char.toLower)) = lowerAscii (.ofList cs) := by
  -- Character by character: what is a small letter by now is no capital.
  rw [lowerAscii, lowerAscii, String.toList_ofList, String.toList_ofList, List.map_map]
  refine congrArg String.ofList (List.map_congr_left fun c _ => ?_)
  rw [Function.comp_apply]
  rcases toLower_cases c with same | ⟨least, most, moved⟩
  · rw [same, same]
  · -- The sum of a capital and 32 is beyond the capitals.
    rcases toLower_cases c.toLower with same | ⟨-, small, -⟩
    · exact same
    · omega

end Text

end SelectorTutorial
