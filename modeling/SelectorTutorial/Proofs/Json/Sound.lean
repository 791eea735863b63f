import SelectorTutorial.Json.Reader
import SelectorTutorial.Proofs.Number.Binary64

/-! The values that JSON can hold, and that no others are read. -/

namespace SelectorTutorial

namespace Json

/-- A number that JSON can hold: an integer that fits 64 bits, with a sign or without, or a finite
number. -/
def Number.IsSound : Number → Prop
  | whole i => -2 ^ 63 ≤ i ∧ i < 2 ^ 64
  | real x => x.isFinite

/-- A value all of whose numbers JSON can hold. -/
inductive IsSound : Json → Prop
  | null : IsSound .null
  | bool (value : Bool) : IsSound (.bool value)
  | number {n : Number} (sound : n.IsSound) : IsSound (.number n)
  | text (value : String) : IsSound (.text value)
  | list {items : List Json} (sound : ∀ item ∈ items, IsSound item) : IsSound (.list items)
  | object {members : List (String × Json)} (sound : ∀ member ∈ members, IsSound member.2) :
      IsSound (.object members)
  | unreadable : IsSound .unreadable

/-- Every number of a sound value is read as a finite one. -/
theorem IsSound.isFinite_of_binary64? {json : Json} {x : Binary64} (sound : json.IsSound)
    (read : json.binary64? = some x) : x.isFinite := by
  -- A whole number of 64 bits is far below the largest finite one; any other is finite by
  -- soundness.
  cases sound with
  | number sound =>
    rename_i n
    cases n with
    | whole i =>
      obtain rfl : Binary64.ofInt i = x := Option.some.inj read
      obtain ⟨least, most⟩ := sound
      exact Binary64.isFinite_ofInt (k := 64) (by decide) (by omega)
    | real y =>
      obtain rfl : y = x := Option.some.inj read
      exact sound
  | null | bool | text | list | object | unreadable => cases read

namespace Numeral

/-- Digits are taken only as long as they fit 64 bits. -/
theorem absorb_le {significand : Nat} (small : significand ≤ maxSignificand) (digits : List Nat) :
    (absorb significand digits).1 ≤ maxSignificand := by
  -- Digit by digit: one that does not fit ends it.
  induction digits generalizing significand with
  | nil => exact small
  | cons d digits ih =>
    rw [absorb]
    split
    · next fits => exact ih fits
    · exact small

/-- However often a number is divided by powers of ten, it stays finite. -/
theorem isFinite_divideByPower {n : Nat} {x : Binary64} (finite : x.isFinite)
    (small : x.IsBelow 67) : (divideByPower n x).isFinite := by
  -- Each division leaves the number below the bound that it was below before.
  fun_induction divideByPower n x with
  | case1 n x within => exact Binary64.isFinite_div_powerOfTen (by decide) small within
  | case2 n x far zero => exact finite
  | case3 n x far some ih =>
    apply ih
    · exact Binary64.isFinite_div_powerOfTen (by decide) small le_rfl
    · exact Binary64.isBelow_div_powerOfTen (by decide) small (by decide) le_rfl

/-- A number that is scaled to its exponent is finite, or is not read. -/
theorem isFinite_scaled? {negative : Bool} {significand : Nat} {exponent : Int} {x : Binary64}
    (small : significand ≤ maxSignificand)
    (read : scaled? negative significand exponent = some x) : x.isFinite := by
  -- By the sign of the exponent: a product is checked, and a quotient gets no larger.
  have bound : (significand : Int).natAbs < 2 ^ 64 := by
    have : maxSignificand < 2 ^ 64 := by decide
    omega
  have finite : (Binary64.ofInt significand).isFinite := Binary64.isFinite_ofInt (by decide) bound
  obtain ⟨magnitude, found, rfl⟩ := Option.map_eq_some_iff.mp read
  apply Binary64.isFinite_withSign
  split at found
  · split at found
    · -- A product is taken only if it is finite.
      exact (Option.filter_eq_some_iff.mp found).2
    · split at found
      · obtain rfl := Option.some.inj found
        exact finite
      · cases found
  · obtain rfl := Option.some.inj found
    apply isFinite_divideByPower finite
    apply Binary64.isBelow_ofRatio (k := 65) _ (by decide)
    rw [Nat.one_mul]
    omega

/-- A number with a fraction or an exponent is finite, or is not read. -/
theorem isFinite_real? {n : Numeral} {x : Binary64} (read : n.real? = some x) : x.isFinite := by
  -- Both the digits before the point and all digits make up a small significand.
  have whole := absorb_le (Nat.zero_le _) n.whole
  have all := absorb_le whole (n.fraction.getD [])
  unfold real? at read
  simp only at read
  split at read
  · exact isFinite_scaled? all read
  · split at read
    · split at read
      · cases read
      -- The exponent is beyond all bounds, and only zero is taken.
      · obtain rfl := Option.some.inj read
        exact Binary64.isFinite_withSign _ (by decide)
    · exact isFinite_scaled? all read

/-- A numeral denotes no number that JSON cannot hold. -/
theorem isSound_number? {n : Numeral} {number : Number} (read : n.number? = some number) :
    number.IsSound := by
  -- By the cases in which a numeral is read, of which two give integers.
  unfold number? at read
  simp only at read
  split at read
  · next short =>
    -- Digits without a point are an integer, unless there is no such integer with their sign.
    have most : Digits.toNat 10 n.whole < 2 ^ 64 := lt_of_le_of_lt short.2.2 (by decide)
    split at read
    · obtain rfl := Option.some.inj read
      constructor <;> omega
    · split at read
      · next small =>
        obtain rfl := Option.some.inj read
        have := small.2
        simp only [Nat.pow_eq] at this
        constructor <;> omega
      · obtain rfl := Option.some.inj read
        apply Binary64.isFinite_withSign
        exact Binary64.isFinite_ofInt (k := 64) (by decide) (by omega)
  · obtain ⟨x, found, rfl⟩ := Option.map_eq_some_iff.mp read
    exact isFinite_real? found

end Numeral

/-- The values that a token holds are sound. -/
def Token.IsSound : Token → Prop
  | literal value => Json.IsSound value
  | _ => True

/-- The words that stand for values are sound. -/
theorem isSound_word? {letters : List Char} {token : Token} (read : word? letters = some token) :
    token.IsSound := by
  -- There are three of them, tried one after the other.
  unfold word? at read
  split at read
  · obtain rfl := Option.some.inj read
    exact .null
  · split at read
    · obtain rfl := Option.some.inj read
      exact .bool true
    · split at read
      · obtain rfl := Option.some.inj read
        exact .bool false
      · cases read

/-- A numeral is sound, as a number or as one that cannot be read. -/
theorem isSound_numeral? {cs : List Char} {token : Token} (read : numeral? cs = some token) :
    token.IsSound := by
  -- What is too large for a number is kept as unreadable.
  obtain ⟨n, -, rfl⟩ := Option.map_eq_some_iff.mp read
  change Json.IsSound _
  split
  · next value found => exact .number (Numeral.isSound_number? found)
  · exact .unreadable

/-- Every token is sound. -/
theorem isSound_token? {c : Char} {symbols rest : List Symbol} {token : Token}
    (read : token? c symbols = some (token, rest)) : token.IsSound := by
  unfold token? at read
  split at read
  -- The marks hold no value.
  iterate 6
    · cases read
      trivial
  · obtain ⟨pieces, -, same⟩ := Option.map_eq_some_iff.mp read
    cases same
    trivial
  · split at read
    · obtain ⟨found, word, same⟩ := Option.map_eq_some_iff.mp read
      cases same
      exact isSound_word? word
    · obtain ⟨found, numeral, same⟩ := Option.map_eq_some_iff.mp read
      cases same
      exact isSound_numeral? numeral

/-- All tokens of a text are sound. -/
theorem isSound_tokensWithin? {bound : Nat} {symbols : List Symbol} {tokens : List Token}
    (read : tokensWithin? bound symbols = some tokens) : ∀ token ∈ tokens, token.IsSound := by
  -- Token by token, as far as the bound allows.
  induction bound generalizing symbols tokens with
  | zero =>
    rw [tokensWithin?] at read
    split at read
    · cases read
      simp
    · cases read
  | succ bound ih =>
    rw [tokensWithin?] at read
    split at read
    · cases read
      simp
    · cases read
    · simp only [Option.bind_eq_bind, Option.bind_eq_some_iff, Prod.exists] at read
      obtain ⟨token, rest, first, others, following, same⟩ := read
      cases same
      intro other member
      rcases List.mem_cons.mp member with rfl | later
      · exact isSound_token? first
      · exact ih following other later

/-- The values of members stay the same when their names are found to be readable. -/
theorem values_of_named {members : List (Option String × Json)} {named : List (String × Json)}
    (found : (members.mapM fun (name, value) => name.map (·, value)) = some named) :
    named.map Prod.snd = members.map Prod.snd := by
  -- Member by member: only the names are looked at.
  induction members generalizing named with
  | nil =>
    cases found
    rfl
  | cons member members ih =>
    obtain ⟨name, value⟩ := member
    simp only [List.mapM_cons, Option.bind_eq_bind, Option.bind_eq_some_iff,
      Option.map_eq_some_iff] at found
    obtain ⟨first, ⟨name, -, rfl⟩, others, later, same⟩ := found
    cases same
    rw [List.map_cons, List.map_cons, ih later]

/-- An object is sound when the values of its members are, and unreadable ones are in any case. -/
theorem isSound_ofMembers {members : List (Option String × Json)}
    (sound : ∀ member ∈ members, IsSound member.2) : (ofMembers members).IsSound := by
  -- If all names are readable the values are those that were there.
  unfold ofMembers
  split
  · next named found =>
    apply IsSound.object
    intro member inside
    have value : member.2 ∈ members.map Prod.snd := by
      rw [← values_of_named found]
      exact List.mem_map_of_mem inside
    obtain ⟨other, inMembers, same⟩ := List.mem_map.mp value
    rw [← same]
    exact sound other inMembers
  · exact .unreadable

/-- What is read from sound tokens is sound, and so are the tokens that are left. -/
theorem isSound_read (bound : Nat) {tokens rest : List Token}
    (sound : ∀ token ∈ tokens, token.IsSound) :
    (∀ value, value? bound tokens = some (value, rest) →
      value.IsSound ∧ ∀ token ∈ rest, token.IsSound) ∧
    (∀ items, items? bound tokens = some (items, rest) →
      (∀ item ∈ items, IsSound item) ∧ ∀ token ∈ rest, token.IsSound) ∧
    (∀ members, members? bound tokens = some (members, rest) →
      (∀ member ∈ members, IsSound member.2) ∧ ∀ token ∈ rest, token.IsSound) := by
  -- Each of the three readers calls itself and the others with a smaller bound.
  induction bound generalizing tokens rest with
  | zero => simp [value?, items?, members?]
  | succ bound ih =>
    refine ⟨?value, ?items, ?members⟩
    case value =>
      intro value read
      unfold value? at read
      split at read
      · -- A word or a number.
        cases read
        exact List.forall_mem_cons.mp sound
      · cases read
        exact ⟨.text _, (List.forall_mem_cons.mp sound).2⟩
      · cases read
        exact ⟨.unreadable, (List.forall_mem_cons.mp sound).2⟩
      · -- The empty list.
        cases read
        refine ⟨.list (by simp), fun token inside => sound token ?_⟩
        exact List.mem_cons_of_mem _ (List.mem_cons_of_mem _ inside)
      · simp only [Option.bind_eq_bind, Option.bind_eq_some_iff, Prod.exists] at read
        obtain ⟨items, left, found, same⟩ := read
        cases same
        obtain ⟨each, after⟩ := (ih (List.forall_mem_cons.mp sound).2).2.1 items found
        exact ⟨.list each, after⟩
      · -- The empty object.
        cases read
        refine ⟨.object (by simp), fun token inside => sound token ?_⟩
        exact List.mem_cons_of_mem _ (List.mem_cons_of_mem _ inside)
      · simp only [Option.bind_eq_bind, Option.bind_eq_some_iff, Prod.exists] at read
        obtain ⟨members, left, found, same⟩ := read
        cases same
        obtain ⟨each, after⟩ := (ih (List.forall_mem_cons.mp sound).2).2.2 members found
        exact ⟨isSound_ofMembers each, after⟩
      · cases read
    case items =>
      intro items read
      unfold items? at read
      simp only [Option.bind_eq_bind, Option.bind_eq_some_iff, Prod.exists] at read
      obtain ⟨item, left, first, read⟩ := read
      obtain ⟨itemSound, leftSound⟩ := (ih sound).1 item first
      split at read
      · cases read
        exact ⟨by simpa using itemSound, (List.forall_mem_cons.mp leftSound).2⟩
      · simp only [Option.bind_eq_some_iff, Prod.exists] at read
        obtain ⟨others, after, found, same⟩ := read
        cases same
        obtain ⟨each, afterSound⟩ := (ih (List.forall_mem_cons.mp leftSound).2).2.1 others found
        exact ⟨List.forall_mem_cons.mpr ⟨itemSound, each⟩, afterSound⟩
      · cases read
    case members =>
      intro members read
      unfold members? at read
      split at read
      · next name tokens =>
        simp only [Option.bind_eq_bind, Option.bind_eq_some_iff, Prod.exists] at read
        obtain ⟨value, left, first, read⟩ := read
        have valueTokens := (List.forall_mem_cons.mp (List.forall_mem_cons.mp sound).2).2
        obtain ⟨valueSound, leftSound⟩ := (ih valueTokens).1 value first
        split at read
        · cases read
          exact ⟨by simpa using valueSound, (List.forall_mem_cons.mp leftSound).2⟩
        · simp only [Option.bind_eq_some_iff, Prod.exists] at read
          obtain ⟨others, after, found, same⟩ := read
          cases same
          obtain ⟨each, afterSound⟩ := (ih (List.forall_mem_cons.mp leftSound).2).2.2 others found
          exact ⟨List.forall_mem_cons.mpr ⟨valueSound, each⟩, afterSound⟩
        · cases read
      · cases read

/-- Every value that some bytes write is sound. -/
theorem isSound_of_ofBytes? {bytes : Bytes} {json : Json} (read : ofBytes? bytes = some json) :
    json.IsSound := by
  -- The tokens are sound, and the value is put together from them.
  simp only [ofBytes?, ofSymbols?, Option.bind_eq_bind, Option.bind_eq_some_iff] at read
  obtain ⟨tokens, cut, read⟩ := read
  split at read
  · next value found =>
    cases read
    exact ((isSound_read _ (isSound_tokensWithin? cut)).1 _ found).1
  · cases read

end Json

end SelectorTutorial
