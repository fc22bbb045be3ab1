/-
# Graft.Proofs.Text.Parts -- texts cut at a separator, put together again, and trimmed

Cutting at a separator is what the standard library does (`splitOn_eq`), so its laws hold, and putting the parts
together undoes it.  Beyond these laws it is said how two texts are cut that meet within a part (`splitOn_meeting`).

Trimming takes blank characters away and no others (`mem_trim`).  Digits are not blank, so a number stays as it is.
-/
import Graft.Text.Blank
import Graft.Text.Digit

namespace Graft.Text

set_option autoImplicit false

/-! ## Parts between separators -/

/-- Cutting at a separator is what the standard library does. -/
theorem splitOn_eq (sep : Char) (t : Text) : t.splitOn sep = List.splitOn sep t := by
  induction t with
  | nil => rfl
  | cons c rest ih =>
      rw [splitOn, ih, List.splitOn_cons_eq_if_modifyHead]
      by_cases same : c = sep
      · rw [if_pos same, if_pos (beq_iff_eq.2 same)]
      · rw [if_neg same, if_neg (mt beq_iff_eq.1 same)]
        cases parts : List.splitOn sep rest with
        | nil => exact absurd parts (List.splitOn_ne_nil sep rest)
        | cons part parts => rfl

theorem splitOn_ne_nil (sep : Char) (t : Text) : t.splitOn sep ≠ [] := by
  rw [splitOn_eq]
  exact List.splitOn_ne_nil sep t

theorem splitOn_append (sep : Char) (front back : Text) :
    (front ++ sep :: back).splitOn sep = front.splitOn sep ++ back.splitOn sep := by
  simp only [splitOn_eq]
  exact List.splitOn_append_cons_self front back

/-- Two texts that meet within a part. -/
theorem splitOn_meeting {sep : Char} {t u last first : Text} {front behind : List Text}
    (ends : t.splitOn sep = front ++ [last]) (begins : u.splitOn sep = first :: behind) :
    (t ++ u).splitOn sep = front ++ (last ++ first) :: behind := by
  induction t generalizing front last with
  | nil =>
      obtain ⟨rfl, same⟩ := List.append_eq_singleton_iff.1 ends.symm |>.resolve_right (by simp)
      obtain rfl := List.singleton_inj.1 same
      exact begins
  | cons c rest ih =>
      rw [List.cons_append, splitOn]
      rw [splitOn] at ends
      by_cases same : c = sep
      · rw [if_pos same] at ends ⊢
        cases front with
        | nil => exact absurd (List.cons_eq_cons.1 ends).2 (splitOn_ne_nil sep rest)
        | cons part front =>
            obtain ⟨rfl, later⟩ := List.cons_eq_cons.1 ends
            rw [ih later]
            rfl
      · rw [if_neg same] at ends ⊢
        cases parts : splitOn sep rest with
        | nil => exact absurd parts (splitOn_ne_nil sep rest)
        | cons part parts =>
            simp only [parts] at ends
            cases front with
            | nil =>
                obtain ⟨rfl, rfl⟩ := List.cons_eq_cons.1 ends
                have joined : splitOn sep (rest ++ u) = [] ++ (part ++ first) :: behind := ih parts
                rw [joined]
                rfl
            | cons part' front =>
                obtain ⟨rfl, rfl⟩ := List.cons_eq_cons.1 ends
                have joined : splitOn sep (rest ++ u) = (part :: front) ++ (last ++ first) :: behind := ih parts
                rw [joined]
                rfl

/-- No part has the separator in it, and what is in a part is in the text. -/
theorem of_mem_splitOn {sep c : Char} {t part : Text} (isPart : part ∈ t.splitOn sep) (member : c ∈ part) :
    c ≠ sep ∧ c ∈ t := by
  induction t generalizing part with
  | nil =>
      obtain rfl := List.mem_singleton.1 isPart
      cases member
  | cons d rest ih =>
      rw [splitOn] at isPart
      by_cases same : d = sep
      · rw [if_pos same] at isPart
        rcases List.mem_cons.1 isPart with rfl | later
        · cases member
        · exact (ih later member).imp_right (List.mem_cons_of_mem d)
      · rw [if_neg same] at isPart
        cases parts : splitOn sep rest with
        | nil => exact absurd parts (splitOn_ne_nil sep rest)
        | cons first behind =>
            rw [parts] at ih
            simp only [parts] at isPart
            rcases List.mem_cons.1 isPart with rfl | later
            · rcases List.mem_cons.1 member with rfl | inFirst
              · exact ⟨same, List.mem_cons_self⟩
              · exact (ih List.mem_cons_self inFirst).imp_right (List.mem_cons_of_mem d)
            · exact (ih (List.mem_cons_of_mem first later) member).imp_right (List.mem_cons_of_mem d)

theorem intercalate_splitOn (sep : Char) (t : Text) : [sep].intercalate (t.splitOn sep) = t := by
  rw [splitOn_eq]
  exact List.intercalate_splitOn sep

theorem splitOn_intercalate {sep : Char} {parts : List Text} (clear : ∀ part ∈ parts, sep ∉ part) (some_ : parts ≠ []) :
    splitOn sep ([sep].intercalate parts) = parts := by
  rw [splitOn_eq]
  exact List.splitOn_intercalate sep clear some_

theorem intercalate_append (sep : Text) {front behind : List Text} (some_ : front ≠ []) (some' : behind ≠ []) :
    sep.intercalate (front ++ behind) = sep.intercalate front ++ sep ++ sep.intercalate behind := by
  induction front with
  | nil => exact absurd rfl some_
  | cons part front ih =>
      by_cases last : front = []
      · subst last
        rw [List.singleton_append, List.intercalate_cons_of_ne_nil some', List.intercalate_singleton]
      · rw [List.cons_append, List.intercalate_cons_of_ne_nil (List.append_ne_nil_of_left_ne_nil last _), ih last,
          List.intercalate_cons_of_ne_nil last]
        simp only [List.append_assoc]

/-- What is in a text put together is in one of its parts, or in the separator. -/
theorem mem_intercalate {sep : Char} {parts : List Text} {c : Char} (member : c ∈ [sep].intercalate parts) :
    c = sep ∨ ∃ part ∈ parts, c ∈ part := by
  induction parts with
  | nil => cases member
  | cons part rest ih =>
      by_cases last : rest = []
      · subst last
        rw [List.intercalate_singleton] at member
        exact .inr ⟨part, List.mem_cons_self, member⟩
      · rw [List.intercalate_cons_of_ne_nil last] at member
        rcases List.mem_append.1 member with front | behind
        · rcases List.mem_append.1 front with inPart | between
          · exact .inr ⟨part, List.mem_cons_self, inPart⟩
          · exact .inl (List.mem_singleton.1 between)
        · exact (ih behind).imp_right fun ⟨other, inRest, inOther⟩ => ⟨other, List.mem_cons_of_mem _ inRest, inOther⟩

/-! ## Characters replaced -/

theorem replaceChar_of_not_mem {a b : Char} {t : Text} (absent : a ∉ t) : t.replaceChar a b = t := by
  have stays : ∀ c ∈ t, (if c = a then b else c) = id c := by
    intro c member
    rw [if_neg fun same : c = a => absent (same ▸ member), id]
  rw [replaceChar, List.map_congr_left stays, List.map_id]

theorem not_mem_replaceChar {a b : Char} (other : b ≠ a) (t : Text) : a ∉ t.replaceChar a b := by
  intro member
  obtain ⟨c, -, shown⟩ := List.mem_map.1 member
  split at shown
  · exact other shown
  · contradiction

/-! ## Trimming -/

theorem trim_eq_self {t : Text} (clear : ∀ c ∈ t, isBlank c = false) : t.trim = t := by
  have stays : ∀ u : Text, (∀ c ∈ u, isBlank c = false) → u.dropWhile isBlank = u := by
    intro u clear
    cases u with
    | nil => rfl
    | cons c rest => exact List.dropWhile_cons_of_neg (Bool.eq_false_iff.1 (clear c List.mem_cons_self))
  rw [trim, stripWith, stays t clear, stays t.reverse (by simpa using clear), List.reverse_reverse]

theorem trim_blank {t : Text} (blank : ∀ c ∈ t, isBlank c = true) : t.trim = [] := by
  have none_ : (t ++ []).dropWhile isBlank = [] := List.dropWhile_append_of_pos blank
  rw [List.append_nil] at none_
  rw [trim, stripWith, none_]
  rfl

/-- A text that begins and ends with no blank character is what is left when the blanks around it are taken away. -/
theorem trim_padded {front t back : Text} (some_ : t ≠ []) (blank : ∀ c ∈ front, isBlank c = true)
    (blank' : ∀ c ∈ back, isBlank c = true) (first : ∀ c ∈ t.head?, isBlank c = false)
    (last : ∀ c ∈ t.getLast?, isBlank c = false) : (front ++ t ++ back).trim = t := by
  have stays : ∀ u behind : Text, u ≠ [] → (∀ c ∈ u.head?, isBlank c = false) →
      (u ++ behind).dropWhile isBlank = u ++ behind := by
    intro u behind some_ solid
    obtain ⟨c, rest, rfl⟩ := List.exists_cons_of_ne_nil some_
    exact List.dropWhile_cons_of_neg (Bool.eq_false_iff.1 (solid c rfl))
  have fromFront : (front ++ t ++ back).dropWhile isBlank = t ++ back := by
    rw [List.append_assoc, List.dropWhile_append_of_pos blank, stays t back some_ first]
  have fromBack : (t ++ back).reverse.dropWhile isBlank = t.reverse := by
    have behind := stays t.reverse [] (by simpa using some_) (by simpa [List.head?_reverse] using last)
    rw [List.append_nil] at behind
    rw [List.reverse_append, List.dropWhile_append_of_pos (by simpa using blank'), behind]
  rw [trim, stripWith, fromFront, fromBack, List.reverse_reverse]

/-- Only blank characters are trimmed away. -/
theorem mem_trim {t : Text} {c : Char} (member : c ∈ t) (solid : isBlank c = false) : c ∈ t.trim := by
  have stays : ∀ u : Text, c ∈ u → c ∈ u.dropWhile isBlank := by
    intro u member
    rw [← List.takeWhile_append_dropWhile (p := isBlank) (l := u)] at member
    rcases List.mem_append.1 member with front | back
    · rw [List.all_eq_true.1 List.all_takeWhile c front] at solid
      cases solid
    · exact back
  rw [trim, stripWith, List.mem_reverse]
  exact stays _ (List.mem_reverse.2 (stays t member))

/-- No decimal digit is blank. -/
theorem digits_solid : (blanks.all fun n => digitZeros.all fun z => !(z ≤ n && n < z + 10)) = true := by decide

theorem isBlank_of_isDecimal {c : Char} (decimal : isDecimal c = true) : isBlank c = false := by
  rw [isDecimal, digitValue?, Option.isSome_map, List.find?_isSome] at decimal
  obtain ⟨z, script, within⟩ := decimal
  refine Bool.eq_false_iff.2 fun blank => ?_
  have member : c.toNat ∈ blanks := List.contains_iff_mem.1 blank
  have apart := List.all_eq_true.1 (List.all_eq_true.1 digits_solid _ member) z script
  rw [within] at apart
  cases apart

end Graft.Text
