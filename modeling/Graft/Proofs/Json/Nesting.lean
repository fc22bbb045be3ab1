/-
# Graft.Proofs.Json.Nesting -- how deep a text may be nested

A reader that goes too deep has met more opening brackets than it had room for: `Measured` says so of an outcome,
and says that what is left of the text is an end of it.  Every reader keeps to that (`readers_measured`), so a
text with few brackets is never refused for its nesting (`read_shallow`).  The other way round, brackets that open
one after the other always are, however the text goes on (`read_deep`).

More room changes nothing for a text that was not refused for its nesting (`readers_grow`), so wherever a text is
read without running out of room, it is read as the same (`read_agree`).
-/
import Graft.Json.Reader
import Mathlib.Data.List.Basic

namespace Graft.Json

set_option autoImplicit false

open Graft.Text

/-- The number of arrays and objects that a text opens, at most. -/
def openings (t : Text) : Nat := t.countP fun c => c == '[' || c == '\x7b'

/-- What is left is an end of the text, and only a text with more openings than there is room for goes too deep. -/
def Measured {α : Type} (room : Nat) (t : Text) : Except JsonFault (α × Text) → Prop
  | .ok (_, after) => after <:+ t
  | .error (.tooDeep _) => room < openings t
  | .error .malformed => True
  | .error (.number _) => True

variable {α β : Type} {room : Nat} {t t' : Text} {outcome : Except JsonFault (α × Text)}

theorem openings_le (ends : t <:+ t') : openings t ≤ openings t' := ends.sublist.countP_le

theorem skipGap_suffix (t : Text) : skipGap t <:+ t := List.dropWhile_suffix _

theorem behind_suffix {c : Char} {rest : Text} (found : skipGap t = c :: rest) : rest <:+ t :=
  (List.suffix_cons c rest).trans (found ▸ skipGap_suffix t)

/-! ## Outcomes -/

theorem Measured.mono (measured : Measured room t outcome) (ends : t <:+ t') : Measured room t' outcome := by
  match outcome, measured with
  | .ok (_, after), left => exact List.IsSuffix.trans left ends
  | .error (.tooDeep _), deep => exact Nat.lt_of_lt_of_le deep (openings_le ends)
  | .error .malformed, _ => trivial
  | .error (.number _), _ => trivial

/-- What is made of the value plays no part. -/
theorem Measured.map (measured : Measured room t outcome) (f : α → β) :
    Measured room t (outcome.map fun read => (f read.1, read.2)) := by
  match outcome, measured with
  | .ok (_, after), left => exact left
  | .error (.tooDeep _), deep => exact deep
  | .error .malformed, _ => trivial
  | .error (.number _), _ => trivial

/-- What is read next is read from what is left. -/
theorem Measured.bind (measured : Measured room t outcome) {next : α × Text → Except JsonFault (β × Text)}
    (later : ∀ value after, Measured room after (next (value, after))) : Measured room t (outcome >>= next) := by
  match outcome, measured with
  | .ok (value, after), left => exact (later value after).mono left
  | .error (.tooDeep _), deep => exact deep
  | .error .malformed, _ => trivial
  | .error (.number _), _ => trivial

/-- Behind an opening bracket there is room for one less. -/
theorem Measured.opened {c : Char} (measured : Measured room t outcome) (opens : c = '[' ∨ c = '\x7b') :
    Measured (room + 1) (c :: t) outcome := by
  match outcome, measured with
  | .ok (_, after), left => exact left.trans (List.suffix_cons c t)
  | .error (.tooDeep _), deep =>
      have more : openings (c :: t) = openings t + 1 := List.countP_cons_of_pos (by rcases opens with rfl | rfl <;> rfl)
      simp only [Measured] at deep ⊢
      omega
  | .error .malformed, _ => trivial
  | .error (.number _), _ => trivial

/-! ## Readers -/

theorem readUnits_measured (room : Nat) (t : Text) : Measured room t (readUnits t) := by
  fun_induction readUnits t with
  | case1 => trivial
  | case2 rest => exact List.suffix_cons _ _
  | case3 a b c d rest unit written ih => exact (ih.map (unit :: ·)).mono ⟨['\\', 'u', a, b, c, d], rfl⟩
  | case4 a b c d rest unwritten => trivial
  | case5 c rest other unit written ih => exact (ih.map (unit :: ·)).mono ⟨['\\', c], rfl⟩
  | case6 c rest other unwritten => trivial
  | case7 c rest notQuote notUnit notEscape refused => trivial
  | case8 c rest notQuote notUnit notEscape plain ih => exact (ih.map (c.toNat :: ·)).mono (List.suffix_cons _ _)

theorem takeDecimal_suffix {digits rest : Text} (taken : takeDecimal t = (digits, rest)) : rest <:+ t := by
  obtain ⟨-, rfl⟩ := Prod.mk.inj taken
  exact List.dropWhile_suffix _

theorem takeWhole_suffix {whole rest : Text} (taken : takeWhole t = some (whole, rest)) : rest <:+ t := by
  unfold takeWhole at taken
  split at taken
  · obtain ⟨rfl, rfl⟩ := Prod.mk.inj (Option.some.inj taken)
    exact List.suffix_cons _ _
  · split at taken
    · cases taken
    · exact takeDecimal_suffix (Option.some.inj taken)

theorem takeFraction_suffix {digits rest : Text} (taken : takeFraction t = some (digits, rest)) : rest <:+ t := by
  unfold takeFraction at taken
  split at taken
  · split at taken
    · cases taken
    · exact (takeDecimal_suffix (Option.some.inj taken)).trans (List.suffix_cons _ _)
  · cases taken

theorem takeSign_suffix (t : Text) : (takeSign t).2 <:+ t := by
  unfold takeSign
  split
  · exact List.suffix_cons _ _
  · exact List.suffix_cons _ _
  · exact List.suffix_refl _

theorem takeExponent_suffix {exponent : Int} {rest : Text} (taken : takeExponent t = some (exponent, rest)) :
    rest <:+ t := by
  unfold takeExponent at taken
  split at taken
  · rename_i c behind
    split at taken
    · simp only at taken
      split at taken
      · cases taken
      · rename_i digits after _ decimal
        obtain ⟨-, rfl⟩ := Prod.mk.inj (Option.some.inj taken)
        exact ((takeDecimal_suffix decimal).trans (takeSign_suffix behind)).trans (List.suffix_cons _ _)
    · cases taken
  · cases taken

/-- What may be there is passed over. -/
theorem getD_suffix {γ : Type} {found : Option (γ × Text)}
    (ends : ∀ value rest, found = some (value, rest) → rest <:+ t) : (found.map (·.2)).getD t <:+ t := by
  cases found with
  | none => exact List.suffix_refl _
  | some pair => exact ends pair.1 pair.2 rfl

theorem readNumber_measured (room : Nat) (negative : Bool) (t : Text) : Measured room t (readNumber negative t) := by
  unfold readNumber
  split
  · trivial
  · rename_i whole rest taken
    have behindWhole := takeWhole_suffix taken
    simp only
    split
    · split
      · trivial
      · exact behindWhole
    · have fraction := getD_suffix fun digits after found => takeFraction_suffix (t := rest) found
      have exponent := getD_suffix fun value after found =>
        takeExponent_suffix (t := ((takeFraction rest).map (·.2)).getD rest) found
      exact (exponent.trans fraction).trans behindWhole

theorem readWord?_suffix {value : Json} {rest : Text} (found : readWord? t = some (value, rest)) : rest <:+ t := by
  obtain ⟨⟨word, value'⟩, -, taken⟩ := List.exists_of_findSome?_eq_some found
  simp only at taken
  split at taken
  · obtain ⟨-, rfl⟩ := Prod.mk.inj (Option.some.inj taken)
    exact List.drop_suffix _ _
  · cases taken

section Mutual

variable {fuel : Nat} (value : ∀ room t, Measured room t (readValue fuel room t))
  (items : ∀ room t, Measured room t (readItems fuel room t))
  (members : ∀ room ms t, Measured room t (readMembers fuel room ms t))

include items members in
theorem readValue_step (room : Nat) (t : Text) : Measured room t (readValue (fuel + 1) room t) := by
  cases t with
  | nil => trivial
  | cons c rest =>
      simp only [readValue]
      by_cases isQuote : c = '\x22'
      · rw [if_pos isQuote]
        have quoted := (readUnits_measured room rest).map fun units =>
          ((joinUnits? units).map text).getD (brokenText (mendUnits units))
        exact quoted.mono (List.suffix_cons c rest)
      rw [if_neg isQuote]
      by_cases isArray : c = '['
      · subst isArray
        rw [if_pos rfl]
        cases room with
        | zero => exact List.countP_pos_iff.2 ⟨'[', List.mem_cons_self, rfl⟩
        | succ room =>
            refine Measured.opened ?_ (.inl rfl)
            simp only
            split
            · rename_i after found
              exact behind_suffix found
            · exact ((items room _).map _).mono (skipGap_suffix rest)
      rw [if_neg isArray]
      by_cases isObject : c = '\x7b'
      · subst isObject
        rw [if_pos rfl]
        cases room with
        | zero => exact List.countP_pos_iff.2 ⟨'\x7b', List.mem_cons_self, rfl⟩
        | succ room =>
            refine Measured.opened ?_ (.inr rfl)
            simp only
            split
            · rename_i after found
              exact behind_suffix found
            · exact ((members room [] _).map _).mono (skipGap_suffix rest)
      rw [if_neg isObject]
      split
      · rename_i found word
        obtain ⟨value, rest'⟩ := found
        exact readWord?_suffix word
      · split
        · exact (readNumber_measured room true rest).mono (List.suffix_cons c rest)
        · exact readNumber_measured room false (c :: rest)

include value items in
theorem readItems_step (room : Nat) (t : Text) : Measured room t (readItems (fuel + 1) room t) := by
  unfold readItems
  apply (value room t).bind
  intro v after
  simp only
  split
  · rename_i rest found
    exact behind_suffix found
  · rename_i rest found
    have later := (items room (skipGap rest)).map (v :: ·)
    exact later.mono ((skipGap_suffix rest).trans (behind_suffix found))
  · trivial

include value members in
theorem readMembers_step (room : Nat) (ms : List (Text × Json)) (t : Text) :
    Measured room t (readMembers (fuel + 1) room ms t) := by
  unfold readMembers
  split
  · rename_i quoted
    refine Measured.mono (Measured.bind (readUnits_measured room quoted) ?_) (List.suffix_cons _ _)
    intro units after
    simp only
    split
    · rename_i rest found
      refine Measured.mono (Measured.bind (value room (skipGap rest)) ?_)
        ((skipGap_suffix rest).trans (behind_suffix found))
      intro v after'
      simp only
      split
      · rename_i behind found'
        exact behind_suffix found'
      · rename_i behind found'
        exact (members room _ _).mono ((skipGap_suffix behind).trans (behind_suffix found'))
      · trivial
    · trivial
  · trivial

end Mutual

/-- The three readers that call each other. -/
theorem readers_measured (fuel : Nat) :
    (∀ room t, Measured room t (readValue fuel room t)) ∧ (∀ room t, Measured room t (readItems fuel room t)) ∧
      ∀ room ms t, Measured room t (readMembers fuel room ms t) := by
  induction fuel with
  | zero =>
      refine ⟨?_, fun room t => trivial, fun room ms t => trivial⟩
      intro room t
      cases t <;> trivial
  | succ fuel ih =>
      obtain ⟨value, items, members⟩ := ih
      exact ⟨readValue_step items members, readItems_step value items, readMembers_step value members⟩

/-- **A text with few brackets is not refused for its nesting.** -/
theorem read_shallow (shallow : openings t ≤ room) (holder : Holder) :
    Json.read room t ≠ .error (.tooDeep holder) := by
  intro failed
  unfold Json.read at failed
  split at failed
  · cases failed
  · have measured := (readers_measured (2 * t.length + 1)).1 room (skipGap t)
    cases outcome : readValue (2 * t.length + 1) room (skipGap t) with
    | error fault =>
        rw [outcome] at failed measured
        obtain rfl := Except.error.inj failed
        have fewer := openings_le (skipGap_suffix t)
        simp only [Measured] at measured
        omega
    | ok found =>
        rw [outcome] at failed
        obtain ⟨value, rest⟩ := found
        simp only [bind, Except.bind] at failed
        split at failed <;> cases failed

/-! ## Brackets that open one after the other -/

theorem readValue_deep (room : Nat) {fuel : Nat} (enough : 2 * room + 1 ≤ fuel) (rest : Text) :
    readValue fuel room (List.replicate (room + 1) '[' ++ rest) = .error (.tooDeep .array) := by
  induction room generalizing fuel with
  | zero =>
      obtain ⟨fuel, rfl⟩ := Nat.exists_eq_add_of_le' enough
      rfl
  | succ room ih =>
      obtain ⟨fuel, rfl⟩ : ∃ more, fuel = more + 2 := ⟨fuel - 2, by omega⟩
      have inner : readValue fuel room (List.replicate (room + 1) '[' ++ rest) = .error (.tooDeep .array) :=
        ih (by omega)
      have items : readItems (fuel + 1) room (List.replicate (room + 1) '[' ++ rest) = .error (.tooDeep .array) := by
        rw [readItems, inner]
        rfl
      have opened : readValue (fuel + 2) (room + 1) (List.replicate (room + 1 + 1) '[' ++ rest) =
          (readItems (fuel + 1) room (List.replicate (room + 1) '[' ++ rest)).map
            fun read => (array read.1, read.2) := rfl
      rw [opened, items]
      rfl

/-- **Brackets that open one after the other beyond the room are refused**, however the text goes on. -/
theorem read_deep {n : Nat} (deep : room < n) (rest : Text) :
    Json.read room (List.replicate n '[' ++ rest) = .error (.tooDeep .array) := by
  obtain ⟨more, rfl⟩ := Nat.exists_eq_add_of_le deep
  rw [List.replicate_add, List.append_assoc, Json.read]
  generalize List.replicate more '[' ++ rest = behind
  have begins : (List.replicate (room + 1) '[' ++ behind).head? = some '[' := rfl
  have solid : skipGap (List.replicate (room + 1) '[' ++ behind) = List.replicate (room + 1) '[' ++ behind := rfl
  have enough : 2 * room + 1 ≤ 2 * (List.replicate (room + 1) '[' ++ behind).length + 1 := by
    rw [List.length_append, List.length_replicate]
    omega
  rw [begins, if_neg (by decide), solid, readValue_deep room enough behind]
  rfl

theorem readValue_unclosed (n fuel room : Nat) :
    ∃ fault, readValue fuel room (List.replicate n '[') = .error fault := by
  induction n generalizing fuel room with
  | zero => cases fuel <;> exact ⟨.malformed, rfl⟩
  | succ n ih =>
      cases fuel with
      | zero => exact ⟨.malformed, rfl⟩
      | succ fuel =>
          cases room with
          | zero => exact ⟨.tooDeep .array, rfl⟩
          | succ room =>
              have items : ∃ fault, readItems fuel room (List.replicate n '[') = .error fault := by
                cases fuel with
                | zero => exact ⟨.malformed, rfl⟩
                | succ fuel =>
                    obtain ⟨fault, failed⟩ := ih fuel room
                    exact ⟨fault, by rw [readItems, failed]; rfl⟩
              obtain ⟨fault, failed⟩ := items
              have opened : readValue (fuel + 1) (room + 1) (List.replicate (n + 1) '[') =
                  (readItems fuel room (List.replicate n '[')).map fun read => (.array read.1, read.2) := by
                cases n <;> rfl
              exact ⟨fault, by rw [opened, failed]; rfl⟩

/-- **Brackets that are never closed are no value**, whatever room there is. -/
theorem read_unclosed (room n : Nat) : ∃ fault, Json.read room (List.replicate n '[') = .error fault := by
  have solid : skipGap (List.replicate n '[') = List.replicate n '[' := by cases n <;> rfl
  obtain ⟨fault, failed⟩ := readValue_unclosed n (2 * (List.replicate n '[').length + 1) room
  unfold Json.read
  split
  · exact ⟨_, rfl⟩
  · exact ⟨fault, by rw [solid, failed]; rfl⟩

theorem openings_brackets (n : Nat) : openings (List.replicate n '[') = n := by
  rw [openings, List.countP_replicate]
  rfl

/-! ## More room -/

/-- With more room the outcome is the same, unless there was too little. -/
def Grows {α : Type} (small large : Except JsonFault α) : Prop :=
  (∃ holder, small = .error (.tooDeep holder)) ∨ large = small

theorem Grows.same (outcome : Except JsonFault α) : Grows outcome outcome := .inr rfl

theorem Grows.map {small large : Except JsonFault α} (grows : Grows small large) (f : α → β) :
    Grows (small.map f) (large.map f) := by
  rcases grows with ⟨holder, rfl⟩ | rfl
  · exact .inl ⟨holder, rfl⟩
  · exact .same _

theorem Grows.bind {small large : Except JsonFault α} (grows : Grows small large) {next next' : α → Except JsonFault β}
    (later : ∀ value, Grows (next value) (next' value)) : Grows (small >>= next) (large >>= next') := by
  rcases grows with ⟨holder, rfl⟩ | rfl
  · exact .inl ⟨holder, rfl⟩
  · cases large with
    | error fault => exact .same _
    | ok value => exact later value

section Mutual

variable {fuel more : Nat} (value : ∀ room t, Grows (readValue fuel room t) (readValue fuel (room + more) t))
  (items : ∀ room t, Grows (readItems fuel room t) (readItems fuel (room + more) t))
  (members : ∀ room ms t, Grows (readMembers fuel room ms t) (readMembers fuel (room + more) ms t))

include items members in
/-- Only a bracket asks whether there is room. -/
theorem readValue_grows (room : Nat) (t : Text) :
    Grows (readValue (fuel + 1) room t) (readValue (fuel + 1) (room + more) t) := by
  cases t with
  | nil => exact .same _
  | cons c rest =>
      simp only [readValue]
      split
      · exact .same _
      · split
        · cases room with
          | zero => exact .inl ⟨.array, rfl⟩
          | succ room =>
              rw [show room + 1 + more = room + more + 1 by omega]
              simp only
              split
              · exact .same _
              · exact (items room _).map _
        · split
          · cases room with
            | zero => exact .inl ⟨.object, rfl⟩
            | succ room =>
                rw [show room + 1 + more = room + more + 1 by omega]
                simp only
                split
                · exact .same _
                · exact (members room [] _).map _
          · exact .same _

include value items in
theorem readItems_grows (room : Nat) (t : Text) :
    Grows (readItems (fuel + 1) room t) (readItems (fuel + 1) (room + more) t) := by
  refine (value room t).bind fun found => ?_
  simp only
  split
  · exact .same _
  · exact (items room _).bind fun _ => .same _
  · exact .same _

include value members in
theorem readMembers_grows (room : Nat) (ms : List (Text × Json)) (t : Text) :
    Grows (readMembers (fuel + 1) room ms t) (readMembers (fuel + 1) (room + more) ms t) := by
  simp only [readMembers]
  split
  · refine (Grows.same _).bind fun name => ?_
    split
    · refine (value room _).bind fun found => ?_
      split
      · exact .same _
      · exact members room _ _
      · exact .same _
    · exact .same _
  · exact .same _

end Mutual

/-- The three readers that call each other. -/
theorem readers_grow (fuel more : Nat) :
    (∀ room t, Grows (readValue fuel room t) (readValue fuel (room + more) t)) ∧
      (∀ room t, Grows (readItems fuel room t) (readItems fuel (room + more) t)) ∧
      ∀ room ms t, Grows (readMembers fuel room ms t) (readMembers fuel (room + more) ms t) := by
  induction fuel with
  | zero =>
      refine ⟨?_, fun room t => .same _, fun room ms t => .same _⟩
      intro room t
      cases t <;> exact .same _
  | succ fuel ih =>
      obtain ⟨value, items, members⟩ := ih
      exact ⟨readValue_grows items members, readItems_grows value items, readMembers_grows value members⟩

/-- **Whatever room there is, a text that does not run out of it is read as the same.** -/
theorem read_agree {room' : Nat} (enough : ∀ holder, Json.read room t ≠ .error (.tooDeep holder))
    (enough' : ∀ holder, Json.read room' t ≠ .error (.tooDeep holder)) : Json.read room' t = Json.read room t := by
  have grows : ∀ room more, Grows (Json.read room t) (Json.read (room + more) t) := by
    intro room more
    unfold Json.read
    split
    · exact .same _
    · exact ((readers_grow _ more).1 room _).bind fun _ => .same _
  rcases Nat.le_total room room' with le | le
  · obtain ⟨more, rfl⟩ := Nat.exists_eq_add_of_le le
    rcases grows room more with ⟨holder, deep⟩ | same
    · exact absurd deep (enough holder)
    · exact same
  · obtain ⟨more, rfl⟩ := Nat.exists_eq_add_of_le le
    rcases grows room' more with ⟨holder, deep⟩ | same
    · exact absurd deep (enough' holder)
    · exact same.symm

end Graft.Json
