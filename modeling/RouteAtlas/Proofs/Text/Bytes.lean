import RouteAtlas.Text.Basic

namespace RouteAtlas.Text

@[simp] theorem bytes_nil : bytes [] = [] := rfl

theorem bytes_cons (c : Char) (rest : Text) :
    bytes (c :: rest) = String.utf8EncodeChar c ++ bytes rest := rfl

@[simp] theorem bytes_append (left right : Text) : bytes (left ++ right) = bytes left ++ bytes right :=
  List.flatMap_append

theorem bytes_inj {left right : Text} (same : bytes left = bytes right) : left = right := by
  have encoded : left.utf8Encode = right.utf8Encode := congrArg List.toByteArray same
  rw [← String.toByteArray_ofList, ← String.toByteArray_ofList] at encoded
  exact String.ofList_injective (String.toByteArray_inj.mp encoded)

theorem utf8EncodeChar_basic {c : Char} (basic : c.toNat < 128) :
    String.utf8EncodeChar c = [UInt8.ofNat c.toNat] := by
  have low : c.toNat ≤ 127 := Nat.le_of_lt_succ basic
  simp [String.utf8EncodeChar, low]

theorem le_of_mem_utf8EncodeChar {c : Char} {unit : UInt8} (wide : 128 ≤ c.toNat)
    (member : unit ∈ String.utf8EncodeChar c) : 128 ≤ unit.toNat := by
  have high : ¬ c.val.toNat ≤ 127 := Nat.not_le.mpr wide
  simp only [String.utf8EncodeChar, high, if_false] at member
  split at member
  · simp only [List.mem_cons, List.not_mem_nil, or_false] at member
    rcases member with rfl | rfl <;> simp <;> omega
  · split at member
    · simp only [List.mem_cons, List.not_mem_nil, or_false] at member
      rcases member with rfl | rfl | rfl <;> simp <;> omega
    · simp only [List.mem_cons, List.not_mem_nil, or_false] at member
      rcases member with rfl | rfl | rfl | rfl <;> simp <;> omega

/-- A unit below 128 comes from the character with this code only. -/
theorem eq_of_basic_mem_utf8EncodeChar {c d : Char} (basic : c.toNat < 128)
    (member : UInt8.ofNat c.toNat ∈ String.utf8EncodeChar d) : d = c := by
  have small : (UInt8.ofNat c.toNat).toNat = c.toNat := by
    simp
    omega
  by_cases wide : 128 ≤ d.toNat
  · have large := le_of_mem_utf8EncodeChar wide member
    omega
  · rw [utf8EncodeChar_basic (Nat.lt_of_not_le wide), List.mem_singleton] at member
    have codes := congrArg UInt8.toNat member
    apply Char.toNat_inj.mp
    simp at codes
    omega

theorem exists_of_bytes_eq_append_cons {text : Text} {c : Char} (basic : c.toNat < 128)
    {front rest : List UInt8} (same : bytes text = front ++ UInt8.ofNat c.toNat :: rest) :
    ∃ left right, text = left ++ c :: right ∧ bytes left = front ∧ bytes right = rest := by
  induction text generalizing front with
  | nil => simp at same
  | cons d text ih =>
    rw [bytes_cons] at same
    by_cases member : UInt8.ofNat c.toNat ∈ String.utf8EncodeChar d
    · obtain rfl := eq_of_basic_mem_utf8EncodeChar basic member
      rw [utf8EncodeChar_basic basic] at same
      cases front with
      | nil => exact ⟨[], text, rfl, rfl, (List.cons.inj same).2⟩
      | cons unit front =>
        obtain ⟨rfl, tails⟩ := List.cons.inj same
        obtain ⟨left, right, rfl, before, after⟩ := ih tails
        exact ⟨d :: left, right, rfl, by rw [bytes_cons, utf8EncodeChar_basic basic, before]; rfl, after⟩
    · -- the place lies behind the units of this character, because none of them is the unit looked for
      rcases List.append_eq_append_iff.mp same with ⟨more, rfl, later⟩ | ⟨more, inside, found⟩
      · obtain ⟨left, right, rfl, before, after⟩ := ih later
        exact ⟨d :: left, right, rfl, by rw [bytes_cons, before], after⟩
      · cases more with
        | nil =>
          rw [List.append_nil] at inside
          obtain ⟨left, right, rfl, before, after⟩ := ih
            (show bytes text = [] ++ UInt8.ofNat c.toNat :: rest by simpa using found.symm)
          exact ⟨d :: left, right, rfl, by rw [bytes_cons, before, List.append_nil, inside], after⟩
        | cons unit more =>
          obtain ⟨rfl, _⟩ := List.cons.inj found
          simp [inside] at member

theorem exists_of_bytes_eq_append {text middle : Text} (basic : ∀ c ∈ middle, c.toNat < 128)
    (filled : middle ≠ []) {front rest : List UInt8} (same : bytes text = front ++ (bytes middle ++ rest)) :
    ∃ left right, text = left ++ (middle ++ right) ∧ bytes left = front ∧ bytes right = rest := by
  induction middle generalizing text front with
  | nil => exact absurd rfl filled
  | cons c middle ih =>
    have here := basic c List.mem_cons_self
    rw [bytes_cons, utf8EncodeChar_basic here] at same
    obtain ⟨left, right, rfl, before, after⟩ := exists_of_bytes_eq_append_cons here same
    cases middle with
    | nil => exact ⟨left, right, rfl, before, after⟩
    | cons d middle =>
      obtain ⟨none, tail, rfl, empty, ended⟩ := ih
        (fun e member => basic e (List.mem_cons_of_mem c member)) (by simp)
        (show bytes right = [] ++ _ from after)
      obtain rfl : none = [] := bytes_inj empty
      exact ⟨left, tail, rfl, before, ended⟩

end RouteAtlas.Text
