/-
# Graft.Proofs.Edit.Nesting -- edits that keep the nesting of delimiters

An edit is level if neither what it puts in nor what it replaces has a delimiter, and if it does not insert just
behind a closing one.  Level edits leave every body as it is: from any offset of the base text, the delimiter
that closes the body is carried along with the offset, and where no delimiter closes it, none does afterwards
(`findClose_toText`).

A stretch of text either closes the body or hands the count on, wherever it stands (`closeFrom_cases`), so the layout
is walked edit by edit.
-/
import Graft.Proofs.Delimiter
import Graft.Proofs.Edit.Cut

namespace Graft

set_option autoImplicit false

namespace Edit

/-- The edit keeps the nesting of delimiters in a base text. -/
structure Level (d : Delimiters) (base : Text) (e : Edit) : Prop where
  content : d.Plain e.content
  replaced : d.Plain (base.slice e.start e.stop)
  notBehind : e.isOverwrite = false → ∀ i c, e.start = i + 1 → base[i]? = some c → d.closing ≠ some c

namespace Buffer

variable {d : Delimiters} {base : Text} {pos : Nat} {es : List Edit}

/-- Where a body closes is carried along with what comes after it. -/
theorem closeFrom_carried {depth pos : Nat} {t : Text} {f f' : Nat → Nat}
    (same : ∀ k, pos < k → k ≤ pos + t.length → f k = f' k) :
    (d.closeFrom depth pos t).map f = (d.closeFrom depth pos t).map f' := by
  cases found : d.closeFrom depth pos t with
  | none => rfl
  | some stop =>
      obtain ⟨after, upTo⟩ := Delimiters.closeFrom_bounds found
      rw [Option.map_some, Option.map_some, same stop after upTo]

theorem kept_last (base : Text) (pos : Nat) : (kept base pos base.length).flatMap (·.text) = base.drop pos := by
  rw [kept_text, Text.slice, List.take_of_length_le (by simp)]

/-- **Where a layout closes a body** is where its base text does, carried along. -/
theorem closeFrom_layOut (within : pos ≤ base.length) (chained : Chained base.length pos es)
    (level : ∀ e ∈ es, e.Level d base) (depth g : Nat) :
    d.closeFrom depth g ((layOut base pos es).flatMap (·.text)) =
      (d.closeFrom depth pos (base.drop pos)).map (carry g (layOut base pos es)) := by
  induction es generalizing pos depth g with
  | nil =>
      rw [layOut, kept_last]
      rcases d.closeFrom_cases depth (base.drop pos) with ⟨k, c, at_, -, closes⟩ | ⟨depth', goesOn⟩
      · have inside := (List.getElem?_eq_some_iff.1 at_).1
        have here := closes g []
        have there := closes pos []
        rw [List.append_nil] at here there
        rw [List.length_drop] at inside
        rw [here, there, Option.map_some, ← List.append_nil (kept _ _ _),
          carry_kept base (Nat.le_refl _) (by omega), carry_nil]
        split <;> congr 1 <;> omega
      · have here := goesOn g []
        have there := goesOn pos []
        rw [List.append_nil] at here there
        rw [here, there]
        rfl
  | cons e rest ih =>
      obtain ⟨from_, order, upTo⟩ := chained.head
      obtain ⟨plain, plain', notBehind⟩ := level e List.mem_cons_self
      have width := Text.slice_length from_ (Nat.le_trans order upTo)
      have width' := Text.slice_length order upTo
      rw [layOut, Nat.max_eq_right (Nat.le_trans from_ order), List.append_assoc, List.flatMap_append, kept_text,
        List.flatMap_append, laid_text, Text.drop_slice from_, Text.drop_slice order]
      rcases d.closeFrom_cases depth (base.slice pos e.start) with
        ⟨k, c, at_, closing, closes⟩ | ⟨depth', goesOn⟩
      · -- The body closes in what is kept before the edit.
        have inside := (List.getElem?_eq_some_iff.1 at_).1
        rw [closes, closes, Option.map_some, carry_kept base (Nat.le_trans order upTo) (by omega)]
        split
        · congr 1
          omega
        · rename_i reached
          have last : pos + k + 1 = e.start := by omega
          have overwrites : e.isOverwrite = true := by
            by_contra plain_
            have closer : base[pos + k]? = some c := by rw [← at_, Text.getElem?_slice, if_pos (by omega)]
            exact notBehind (Bool.eq_false_iff.2 plain_) (pos + k) c last.symm closer closing
          rw [last, carry_laid_self (chained.within e List.mem_cons_self) overwrites]
          congr 1
          omega
      · rw [goesOn, goesOn, Delimiters.closeFrom_plain plain, Delimiters.closeFrom_plain plain', width, width',
          ih upTo chained.tail (fun x member => level x (List.mem_cons_of_mem e member))]
        refine closeFrom_carried fun k after _ => ?_
        rw [carry_kept base (Nat.le_trans order upTo) (by omega), if_neg (by omega), carry_laid (by omega)]
        congr 1
        omega

/-- In what is replaced no body closes, so from any offset in it the same one is found. -/
theorem findClose_covered {start stop i : Nat} (plain : d.Plain (base.slice start stop)) (from_ : start ≤ i)
    (before : i ≤ stop) (within : stop ≤ base.length) : d.findClose base i = d.findClose base start := by
  have cut := Text.slice_cut base from_ before
  have width := Text.slice_length from_ (Nat.le_trans before within)
  have plain' : d.Plain (base.slice start i) := fun c member =>
    plain c (by rw [cut]; exact List.mem_append_left _ member)
  simp only [Delimiters.findClose, Int.toNat_natCast]
  rw [Text.drop_slice from_, Delimiters.closeFrom_plain plain', width]

/-- What closes a body in the output, by where the offset of the base text and the end found from there are
carried. -/
def ClosesAlike (d : Delimiters) (b : Buffer) (i : Nat) : Prop :=
  ∃ g, b.positionMap.toOutput i = .ok g ∧
    match d.findClose b.base i with
    | none => d.findClose b.toText g = none
    | some stop => ∃ g', b.positionMap.toOutput stop = .ok g' ∧ d.findClose b.toText g = some g'

/-- At an offset that no edit has strictly inside, the output is the layout from there on. -/
theorem closesAlike_of_clear {b : Buffer} (sound : b.Sound) (level : ∀ e ∈ b.edits, e.Level d b.base) {i : Nat}
    (within : i ≤ b.base.length) (clear : ∀ e ∈ b.edits, ¬ (e.start < i ∧ i < e.stop)) : ClosesAlike d b i := by
  obtain ⟨front, text, here, later⟩ := toText_cut sound within clear
  have found : d.findClose b.toText front.length =
      (d.findClose b.base i).map (carry front.length (layOut b.base i (b.ranked.filter (·.behind i)))) := by
    simp only [Delimiters.findClose, Int.toNat_natCast]
    rw [text, List.drop_left]
    refine closeFrom_layOut within ((ranked_chained sound).filter_behind i) (fun e member => level e ?_) 0 _
    exact b.ranked_perm.mem_iff.1 (List.mem_filter.1 member).1
  refine ⟨front.length, here, ?_⟩
  rw [found]
  cases closes : d.findClose b.base i with
  | none => rfl
  | some stop =>
      obtain ⟨after, upTo⟩ := Delimiters.closeFrom_bounds closes
      rw [Int.toNat_natCast, List.length_drop] at upTo
      exact ⟨_, later stop (by omega) (by omega), rfl⟩

/-- **Level edits keep where bodies close**, from every offset of the base text. -/
theorem findClose_toText {b : Buffer} (sound : b.Sound) (level : ∀ e ∈ b.edits, e.Level d b.base) {i : Nat}
    (within : i ≤ b.base.length) : ClosesAlike d b i := by
  by_cases inside : ∃ e ∈ b.edits, e.start < i ∧ i < e.stop
  · obtain ⟨e, member, after, before⟩ := inside
    have range := sound.inRange e member
    cases e with
    | insertion => exact absurd (Nat.lt_trans after before) (Nat.lt_irrefl _)
    | overwrite start stop content =>
        have plain := (level _ member).replaced
        simp only [Edit.start, Edit.stop] at after before plain
        have same := findClose_covered plain (Nat.le_of_lt after) (Nat.le_of_lt before) range.2
        have carried := toOutput_covered sound member (Nat.le_of_lt after) before
        have start_ := closesAlike_of_clear sound level (i := start) (by omega) (sound.clear_start member)
        rwa [ClosesAlike, ← same, ← carried] at start_
  · exact closesAlike_of_clear sound level within fun e member around => inside ⟨e, member, around⟩

end Buffer

end Edit

end Graft
