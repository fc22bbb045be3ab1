/-
# Graft.Proofs.Delimiter -- where a body ends

The scan for the end of a body only counts, so a stretch of text either closes the body or hands the count on,
wherever it stands (`closeFrom_cases`).  A block that opens in a body closes before the body does
(`findClose_block`).

What the count recognises is a grammar.  With two different characters for delimiters, a body ends at the closing
delimiter up to which the text is balanced, all other characters left out (`findClose_balanced`).  The scan is in the
middle of several bodies at once, so the induction is over texts that close some more than they open (`Owes`).
-/
import Graft.Delimiter
import Graft.Proofs.Text.Slice

namespace Graft

set_option autoImplicit false

namespace Delimiters

variable (d : Delimiters)

/-- The text has no delimiter. -/
def Plain (t : Text) : Prop := ∀ c ∈ t, d.opening ≠ some c ∧ d.closing ≠ some c

variable {d}

theorem closeFrom_plain {u : Text} (plain : d.Plain u) (depth pos : Nat) (v : Text) :
    d.closeFrom depth pos (u ++ v) = d.closeFrom depth (pos + u.length) v := by
  induction u generalizing pos with
  | nil => rfl
  | cons c rest ih =>
      obtain ⟨noOpening, noClosing⟩ := plain c List.mem_cons_self
      have later := ih (fun x member => plain x (List.mem_cons_of_mem c member)) (pos + 1)
      rw [List.length_cons, show pos + (rest.length + 1) = pos + 1 + rest.length by omega, ← later]
      simp [closeFrom, noOpening, noClosing]

variable (d)

/-- A character closes the body or changes the count. -/
theorem closeFrom_step (depth : Nat) (c : Char) :
    (d.closing = some c ∧ ∀ pos v, d.closeFrom depth pos (c :: v) = some (pos + 1)) ∨
      ∃ depth', ∀ pos v, d.closeFrom depth pos (c :: v) = d.closeFrom depth' (pos + 1) v := by
  by_cases opens : d.opening = some c
  · exact .inr ⟨depth + 1, fun pos v => by simp [closeFrom, opens]⟩
  · by_cases closes : d.closing = some c
    · cases depth with
      | zero => exact .inl ⟨closes, fun pos v => by simp [closeFrom, opens, closes]⟩
      | succ depth => exact .inr ⟨depth, fun pos v => by simp [closeFrom, opens, closes]⟩
    · exact .inr ⟨depth, fun pos v => by simp [closeFrom, opens, closes]⟩

/-- A stretch of text closes the body at one of its characters, or hands the count on. -/
theorem closeFrom_cases (depth : Nat) (u : Text) :
    (∃ k c, u[k]? = some c ∧ d.closing = some c ∧
        ∀ pos v, d.closeFrom depth pos (u ++ v) = some (pos + k + 1)) ∨
      ∃ depth', ∀ pos v, d.closeFrom depth pos (u ++ v) = d.closeFrom depth' (pos + u.length) v := by
  induction u generalizing depth with
  | nil => exact .inr ⟨depth, fun _ _ => rfl⟩
  | cons c rest ih =>
      rcases d.closeFrom_step depth c with ⟨closing, closes⟩ | ⟨depth', step⟩
      · exact .inl ⟨0, c, rfl, closing, fun pos v => closes pos (rest ++ v)⟩
      · rcases ih depth' with ⟨k, x, at_, closing, closes⟩ | ⟨depth'', goesOn⟩
        · refine .inl ⟨k + 1, x, at_, closing, fun pos v => ?_⟩
          rw [List.cons_append, step, closes, show pos + 1 + k + 1 = pos + (k + 1) + 1 by omega]
        · refine .inr ⟨depth'', fun pos v => ?_⟩
          rw [List.cons_append, step, goesOn, List.length_cons,
            show pos + 1 + rest.length = pos + (rest.length + 1) by omega]

variable {d}

theorem closeFrom_bounds {depth pos stop : Nat} {t : Text} (found : d.closeFrom depth pos t = some stop) :
    pos < stop ∧ stop ≤ pos + t.length := by
  rcases d.closeFrom_cases depth t with ⟨k, c, at_, -, closes⟩ | ⟨depth', goesOn⟩
  · have inside := (List.getElem?_eq_some_iff.1 at_).1
    have here := closes pos []
    rw [List.append_nil, found] at here
    obtain rfl := Option.some.inj here
    omega
  · have here := goesOn pos []
    rw [List.append_nil, found] at here
    simp [closeFrom] at here

/-! ## Blocks in a body -/

variable {d : Delimiters} {t : Text}

/-- From a place before the end of the body, the scan goes on with some count. -/
theorem closeFrom_drop {depth pos stop k : Nat} (found : d.closeFrom depth pos t = some stop)
    (before : pos + k < stop) :
    ∃ depth', d.closeFrom depth' (pos + k) (t.drop k) = some stop := by
  have within := (closeFrom_bounds found).2
  have length : (t.take k).length = k := List.length_take_of_le (by omega)
  rw [← List.take_append_drop k t] at found
  rcases d.closeFrom_cases depth (t.take k) with ⟨j, c, at_, -, closes⟩ | ⟨depth', goesOn⟩
  · have inside := (List.getElem?_eq_some_iff.1 at_).1
    rw [closes] at found
    have := Option.some.inj found
    omega
  · rw [goesOn, length] at found
    exact ⟨depth', found⟩

/-- The last of several open bodies ends before the others do. -/
theorem closeFrom_shallower {depth depth' pos stop : Nat} (found : d.closeFrom depth' pos t = some stop)
    (fewer : depth < depth') : ∃ stop', d.closeFrom depth pos t = some stop' ∧ stop' < stop := by
  induction t generalizing depth depth' pos with
  | nil => simp [closeFrom] at found
  | cons c rest ih =>
      by_cases opens : d.opening = some c
      · simp only [closeFrom, opens, if_true] at found ⊢
        exact ih found (Nat.succ_lt_succ fewer)
      · by_cases closes : d.closing = some c
        · obtain ⟨deeper, rfl⟩ : ∃ deeper, depth' = deeper + 1 := ⟨depth' - 1, by omega⟩
          simp only [closeFrom, if_neg opens, closes, if_true] at found ⊢
          cases depth with
          | zero => exact ⟨pos + 1, rfl, (closeFrom_bounds found).1⟩
          | succ depth => exact ih found (Nat.lt_of_succ_lt_succ fewer)
        · simp only [closeFrom, if_neg opens, if_neg closes] at found ⊢
          exact ih found fewer

theorem findClose_bounds {start stop : Nat} (found : d.findClose t start = some stop) :
    start < stop ∧ stop ≤ t.length := by
  obtain ⟨after, upTo⟩ := closeFrom_bounds found
  rw [Int.toNat_natCast, List.length_drop] at upTo
  rw [Int.toNat_natCast] at after
  omega

/-- A body ends with the delimiter that closes it. -/
theorem findClose_closing {start stop : Nat} (found : d.findClose t start = some stop) :
    ∃ c, t[stop - 1]? = some c ∧ d.closing = some c := by
  rw [findClose, Int.toNat_natCast] at found
  rcases d.closeFrom_cases 0 (t.drop start) with ⟨k, c, at_, closing, closes⟩ | ⟨depth, goesOn⟩
  · have here := closes start []
    rw [List.append_nil, found] at here
    obtain rfl := Option.some.inj here
    exact ⟨c, by rwa [List.getElem?_drop] at at_, closing⟩
  · have here := goesOn start []
    rw [List.append_nil, found] at here
    simp [closeFrom] at here

/-- **A block that opens in a body closes in it.** -/
theorem findClose_block {start stop k : Nat} (found : d.findClose t start = some stop) (from_ : start ≤ k)
    (before : k + 1 < stop) {c : Char} (here : t[k]? = some c) (opens : d.opening = some c) :
    ∃ stop', d.findClose t ((k + 1 : Nat) : Int) = some stop' ∧ stop' < stop := by
  rw [findClose, Int.toNat_natCast] at found
  obtain ⟨depth, goesOn⟩ := closeFrom_drop (k := k - start) found (by omega)
  obtain ⟨inside, rfl⟩ := List.getElem?_eq_some_iff.1 here
  rw [List.drop_drop, show start + (k - start) = k by omega, List.drop_eq_getElem_cons inside] at goesOn
  simp only [closeFrom, opens, if_true] at goesOn
  rw [findClose, Int.toNat_natCast]
  exact closeFrom_shallower goesOn (Nat.succ_pos depth)

/-! ## Balanced texts -/

/-- Texts of two delimiters in which each opening one is closed. -/
inductive Dyck (opening closing : Char) : Text → Prop where
  | nil : Dyck opening closing []
  | nest {u v : Text} (inner : Dyck opening closing u) (later : Dyck opening closing v) :
      Dyck opening closing (opening :: (u ++ closing :: v))

/-- Texts of two delimiters that close `depth` bodies more than they open. -/
inductive Owes (opening closing : Char) : Nat → Text → Prop where
  | even {u : Text} (balanced : Dyck opening closing u) : Owes opening closing 0 u
  | close {depth : Nat} {u v : Text} (balanced : Dyck opening closing u) (later : Owes opening closing depth v) :
      Owes opening closing (depth + 1) (u ++ closing :: v)

section Grammar

variable {opening closing : Char}

theorem owes_nil {depth : Nat} : Owes opening closing depth [] ↔ depth = 0 := by
  constructor
  · intro owes
    generalize empty : ([] : Text) = w at owes
    cases owes with
    | even => rfl
    | close => simp at empty
  · rintro rfl
    exact .even .nil

variable (distinct : opening ≠ closing)
include distinct

/-- A balanced text does not begin with the closing delimiter. -/
theorem Dyck.not_closing {w : Text} : ¬ Dyck opening closing (closing :: w) := by
  intro balanced
  cases balanced with
  | nest => exact distinct rfl

/-- What is open at an opening delimiter is one body more behind it. -/
theorem owes_opening {depth : Nat} {w : Text} :
    Owes opening closing depth (opening :: w) ↔ Owes opening closing (depth + 1) w := by
  constructor
  · intro owes
    generalize whole : opening :: w = x at owes
    cases owes with
    | even balanced =>
        subst whole
        cases balanced with
        | nest inner later => exact .close inner (.even later)
    | close balanced later =>
        cases balanced with
        | nil => exact absurd (List.cons.inj whole).1 distinct
        | nest inner between =>
            rw [List.cons_append, List.append_assoc, List.cons_append] at whole
            obtain ⟨-, rfl⟩ := List.cons.inj whole
            exact .close inner (.close between later)
  · intro owes
    cases owes with
    | close inner later =>
        cases later with
        | even balanced => exact .even (.nest inner balanced)
        | @close depth u v between later =>
            have whole := Owes.close (.nest inner between) later
            rwa [List.cons_append, List.append_assoc, List.cons_append] at whole

/-- A closing delimiter closes the last of the bodies that are open. -/
theorem owes_closing {depth : Nat} {w : Text} :
    Owes opening closing depth (closing :: w) ↔ ∃ depth', depth = depth' + 1 ∧ Owes opening closing depth' w := by
  constructor
  · intro owes
    generalize whole : closing :: w = x at owes
    cases owes with
    | even balanced => exact absurd (whole ▸ balanced) (Dyck.not_closing distinct)
    | @close depth' u v balanced later =>
        cases balanced with
        | nil => exact ⟨depth', rfl, (List.cons.inj whole).2 ▸ later⟩
        | nest => exact absurd (List.cons.inj whole).1.symm distinct
  · rintro ⟨depth', rfl, owes⟩
    exact .close .nil owes

end Grammar

/-! ## What the scan recognises -/

/-- The delimiters in a text, all other characters left out. -/
def delimitersIn (opening closing : Char) (t : Text) : Text := t.filter fun c => c == opening || c == closing

/-- The body that begins at `start` ends at `stop`: a closing delimiter stands before that, and up to it the text is
balanced. -/
structure Ends (opening closing : Char) (t : Text) (start stop : Nat) : Prop where
  after : start < stop
  within : stop ≤ t.length
  closes : t[stop - 1]? = some closing
  balanced : Dyck opening closing (delimitersIn opening closing (t.slice start (stop - 1)))

section Recognised

variable {opening closing : Char}

@[simp] theorem delimitersIn_nil : delimitersIn opening closing [] = [] := rfl

theorem delimitersIn_cons (c : Char) (rest : Text) : delimitersIn opening closing (c :: rest) =
    if c = opening ∨ c = closing then c :: delimitersIn opening closing rest
    else delimitersIn opening closing rest := by
  simp [delimitersIn, List.filter_cons]

variable (distinct : opening ≠ closing)
include distinct

/-- **The scan ends at the closing delimiter up to which the text closes all that is open.** -/
theorem closeFrom_iff {depth pos stop : Nat} :
    closeFrom ⟨some opening, some closing⟩ depth pos t = some stop ↔
      ∃ n, stop = pos + n + 1 ∧ t[n]? = some closing ∧
        Owes opening closing depth (delimitersIn opening closing (t.take n)) := by
  induction t generalizing depth pos with
  | nil => simp [closeFrom]
  | cons c rest ih =>
      -- Either the scan ends at the first character, or it is one character further.
      have split_ : (∃ n, stop = pos + n + 1 ∧ (c :: rest)[n]? = some closing ∧
            Owes opening closing depth (delimitersIn opening closing ((c :: rest).take n))) ↔
          (stop = pos + 1 ∧ c = closing ∧ depth = 0) ∨
            ∃ n, stop = pos + 1 + n + 1 ∧ rest[n]? = some closing ∧
              Owes opening closing depth (delimitersIn opening closing (c :: rest.take n)) := by
        constructor
        · rintro ⟨n, rfl, at_, owes⟩
          cases n with
          | zero => exact .inl ⟨rfl, Option.some.inj at_, owes_nil.1 owes⟩
          | succ n => exact .inr ⟨n, by omega, at_, owes⟩
        · rintro (⟨rfl, rfl, rfl⟩ | ⟨n, rfl, at_, owes⟩)
          · exact ⟨0, rfl, rfl, owes_nil.2 rfl⟩
          · exact ⟨n + 1, by omega, at_, owes⟩
      rw [split_]
      simp only [delimitersIn_cons]
      by_cases opens : c = opening
      · subst opens
        simp only [closeFrom, if_true, ih, distinct, true_or, owes_opening distinct, false_and, and_false, false_or]
      · by_cases closes : c = closing
        · subst closes
          simp only [closeFrom, Option.some.injEq, distinct, if_true, if_false, or_true, owes_closing distinct,
            true_and]
          cases depth with
          | zero => simp [eq_comm]
          | succ depth => simp [ih]
        · simp only [closeFrom, Option.some.injEq, Ne.symm opens, Ne.symm closes, opens, closes, if_false, ih, or_self,
            false_and, and_false, false_or]

theorem findClose_iff {start : Int} {stop : Nat} :
    (ofTexts [opening] [closing]).findClose t start = some stop ↔ Ends opening closing t start.toNat stop := by
  rw [findClose, ofTexts, only?, only?, closeFrom_iff distinct]
  constructor
  · rintro ⟨n, rfl, at_, owes⟩
    rw [List.getElem?_drop] at at_
    have inside := (List.getElem?_eq_some_iff.1 at_).1
    cases owes with
    | even balanced =>
        refine ⟨by omega, by omega, at_, ?_⟩
        rwa [Text.slice, Nat.add_sub_cancel, Nat.add_sub_cancel_left]
  · rintro ⟨after, within, closes, balanced⟩
    refine ⟨stop - 1 - start.toNat, by omega, ?_, .even balanced⟩
    rwa [List.getElem?_drop, show start.toNat + (stop - 1 - start.toNat) = stop - 1 by omega]

/-- **The scan recognises exactly the balanced bodies**, from every start and whatever the text is; a start in front
of the text counts as its first offset.  No body has two ends, so the end of a balanced body is found wherever the
body stands. -/
theorem findClose_balanced (t : Text) (start : Int) :
    (∀ stop, (ofTexts [opening] [closing]).findClose t start = some stop ↔
      Ends opening closing t start.toNat stop) ∧
    ((ofTexts [opening] [closing]).findClose t start = none ↔
      ¬ ∃ stop, Ends opening closing t start.toNat stop) ∧
    (∀ stop stop', Ends opening closing t start.toNat stop → Ends opening closing t start.toNat stop' →
      stop = stop') ∧
    ∀ front body back : Text, Dyck opening closing (delimitersIn opening closing body) →
      (ofTexts [opening] [closing]).findClose (front ++ body ++ closing :: back) front.length =
        some (front.length + body.length + 1) := by
  refine ⟨fun stop => findClose_iff distinct, ?_, fun stop stop' ends ends' => ?_, fun front body back balanced => ?_⟩
  · simp only [Option.eq_none_iff_forall_ne_some, ne_eq, findClose_iff distinct, not_exists]
  · exact Option.some.inj (((findClose_iff distinct).2 ends).symm.trans ((findClose_iff distinct).2 ends'))
  · refine (findClose_iff distinct).2 ⟨?_, ?_, ?_, ?_⟩
    · rw [Int.toNat_natCast]
      omega
    · simp only [List.length_append, List.length_cons]
      omega
    · rw [Nat.add_sub_cancel, ← List.length_append, List.getElem?_append_right (Nat.le_refl _), Nat.sub_self,
        List.getElem?_cons_zero]
    · rwa [Int.toNat_natCast, Nat.add_sub_cancel, Text.slice_middle]

end Recognised

/-- Nested parentheses, with other brackets in between, from an offset in front of the text. -/
theorem findClose_balanced_call :
    '(' ≠ ')' ∧ (ofTexts ['('] [')']).findClose "a, (b, [c), d) + e".toList (-1) = some 14 ∧
      Ends '(' ')' "a, (b, [c), d) + e".toList 0 14 := by
  have distinct : '(' ≠ ')' := by decide
  have found : (ofTexts ['('] [')']).findClose "a, (b, [c), d) + e".toList (-1) = some 14 := by decide
  exact ⟨distinct, found, ((findClose_balanced distinct "a, (b, [c), d) + e".toList (-1)).1 14).1 found⟩

end Delimiters

end Graft
