/-
# Graft.Proofs.Edit.Cut -- the output from an offset on

A layout can be cut at any offset of the base text that no edit has strictly inside: before the cut stand the
edits up to that offset, with all that is inserted there, behind it the others (`behind`).  The offset is carried
to the cut, and every later one to where the second part alone carries it (`toText_cut`).

So a fact about the output from an offset on is a fact about a layout from its start on.
-/
import Graft.Proofs.Edit.Shift

namespace Graft.Edit

set_option autoImplicit false

/-- Where pieces that are laid out from `pos` on carry an offset of the base; one past all of them goes to
their end. -/
def carry (pos : Nat) (ps : List Piece) (i : Nat) : Nat :=
  ((segmentsFrom pos ps).findSome? (·.toOutput? i)).getD (pos + (ps.flatMap (·.text)).length)

theorem carry_nil (pos i : Nat) : carry pos [] i = pos := rfl

theorem carry_cons (pos : Nat) (p : Piece) (rest : List Piece) (i : Nat) :
    carry pos (p :: rest) i =
      if p.start ≤ i ∧ i < p.stop then if p.edited then pos else pos + (i - p.start)
      else carry (pos + p.text.length) rest i := by
  have here : (p.segment pos).toOutput? i =
      if p.start ≤ i ∧ i < p.stop then some (if p.edited then pos else pos + (i - p.start)) else none := rfl
  rw [carry, segmentsFrom_cons, List.findSome?_cons, here]
  by_cases inside : p.start ≤ i ∧ i < p.stop
  · rw [if_pos inside, if_pos inside]
    rfl
  · rw [if_neg inside, if_neg inside, carry, List.flatMap_cons, List.length_append, ← Nat.add_assoc]

/-- Pieces that do not hold an offset are passed over. -/
theorem carry_append {ps : List Piece} {i : Nat} (past : ∀ p ∈ ps, ¬ (p.start ≤ i ∧ i < p.stop)) (pos : Nat)
    (qs : List Piece) : carry pos (ps ++ qs) i = carry (pos + (ps.flatMap (·.text)).length) qs i := by
  induction ps generalizing pos with
  | nil => rfl
  | cons p rest ih =>
      rw [List.cons_append, carry_cons, if_neg (past p List.mem_cons_self),
        ih fun q later => past q (List.mem_cons_of_mem p later), List.flatMap_cons, List.length_append,
        Nat.add_assoc]

namespace Buffer

theorem carry_kept (base : Text) {pos stop i : Nat} (within : stop ≤ base.length) (from_ : pos ≤ i) (g : Nat)
    (qs : List Piece) :
    carry g (kept base pos stop ++ qs) i =
      if i < stop then g + (i - pos) else carry (g + (stop - pos)) qs i := by
  unfold kept
  split
  · rename_i proper
    have shown := Text.slice_length (Nat.le_of_lt proper) within
    rw [List.singleton_append, carry_cons]
    simp only [from_, true_and, Bool.false_eq_true, if_false,
      show (base.slice pos stop).length = stop - pos by omega]
  · rw [if_neg (by omega), List.nil_append, show stop - pos = 0 by omega, Nat.add_zero]

theorem laid_text (e : Edit) : (laid e).flatMap (·.text) = e.content := laid_flatMap e id

/-- An edit that ends up to an offset is passed over. -/
theorem carry_laid {e : Edit} {i : Nat} (past : e.stop ≤ i) (g : Nat) (qs : List Piece) :
    carry g (laid e ++ qs) i = carry (g + e.content.length) qs i := by
  rw [carry_append (fun p member => ?_), laid_text]
  obtain rfl := mem_laid member
  exact fun inside => Nat.not_lt.2 past inside.2

/-- The start of an overwritten range is carried to the start of what replaces it. -/
theorem carry_laid_self {e : Edit} {length : Nat} (within : e.InRange length) (overwrites : e.isOverwrite = true)
    (g : Nat) (qs : List Piece) : carry g (laid e ++ qs) e.start = g := by
  cases e with
  | insertion => simp [isOverwrite] at overwrites
  | overwrite start stop content =>
      obtain ⟨proper, -⟩ := within
      simp [laid, Edit.start, Edit.stop, proper, carry_cons]

end Buffer

/-! ## The cut -/

/-- What the edit puts into the output comes behind the place to which the offset is carried. -/
def behind (i : Nat) (e : Edit) : Bool := i < e.start || (i == e.start && e.isOverwrite)

theorem behind_iff (i : Nat) (e : Edit) :
    e.behind i = true ↔ i < e.start ∨ i = e.start ∧ e.isOverwrite = true := by simp [behind]

/-- Edits in layout order behind one that stands behind an offset stand behind it too. -/
theorem Chained.behind_of_head {length pos i : Nat} {e x : Edit} {es : List Edit}
    (chained : Chained length pos (e :: es)) (head : e.behind i = true) (member : x ∈ es) :
    x.behind i = true := by
  rw [behind_iff] at head ⊢
  have after := chained.tail.from_ x member
  have order := chained.head
  rcases head with before | ⟨rfl, overwrites⟩
  · exact .inl (by omega)
  · have proper : e.start < e.stop := by
      have within := chained.within e List.mem_cons_self
      cases e <;> simp only [isOverwrite, Bool.false_eq_true] at overwrites
      exact within.1
    exact .inl (by omega)

/-- The edits behind an offset follow each other from there on. -/
theorem Chained.filter_behind {length pos : Nat} {es : List Edit} (chained : Chained length pos es) (i : Nat) :
    Chained length i (es.filter (·.behind i)) where
  chain := chained.chain.filter _
  within := fun e member => chained.within e (List.mem_filter.1 member).1
  from_ := by
    intro e member
    rcases (behind_iff i e).1 (List.mem_filter.1 member).2 with before | ⟨same, -⟩ <;> omega

namespace Buffer

variable {base : Text} {pos i : Nat} {es : List Edit}

/-- The layout from an offset on carries that offset to its own start. -/
theorem carry_layOut_self (within : i ≤ base.length) (chained : Chained base.length i es)
    (behind_ : ∀ e ∈ es, e.behind i = true) (g : Nat) : carry g (layOut base i es) i = g := by
  cases es with
  | nil =>
      rw [layOut, ← List.append_nil (kept _ _ _), carry_kept base (Nat.le_refl _) (Nat.le_refl _)]
      split
      · omega
      · rw [carry_nil]
        omega
  | cons e rest =>
      obtain ⟨from_, order, upTo⟩ := chained.head
      rw [layOut, List.append_assoc, carry_kept base (Nat.le_trans order upTo) (Nat.le_refl _)]
      split
      · omega
      · rename_i here
        obtain ⟨same, overwrites⟩ := ((behind_iff i e).1 (behind_ e List.mem_cons_self)).resolve_left here
        rw [same, Nat.sub_self, Nat.add_zero]
        exact carry_laid_self (chained.within e List.mem_cons_self) overwrites g _

/-- What is kept can be cut anywhere. -/
theorem kept_cut {stop : Nat} (from_ : pos ≤ i) (before : i ≤ stop) (within : stop ≤ base.length)
    (qs : List Piece) :
    (kept base pos stop ++ qs).flatMap (·.text) =
        base.slice pos i ++ (kept base i stop ++ qs).flatMap (·.text) ∧
      ∀ g k, i ≤ k →
        carry g (kept base pos stop ++ qs) k =
          carry (g + (base.slice pos i).length) (kept base i stop ++ qs) k := by
  constructor
  · rw [List.flatMap_append, List.flatMap_append, kept_text, kept_text, Text.slice_cut base from_ before,
      List.append_assoc]
  · intro g k later
    have length := Text.slice_length from_ (Nat.le_trans before within)
    rw [carry_kept base within (Nat.le_trans from_ later), carry_kept base within later]
    split
    · omega
    · congr 1
      omega

/-- **A layout can be cut at an offset that no edit has strictly inside.** -/
theorem layOut_cut (within : i ≤ base.length) (from_ : pos ≤ i) (chained : Chained base.length pos es)
    (clear : ∀ e ∈ es, ¬ (e.start < i ∧ i < e.stop)) :
    ∃ front : Text,
      (layOut base pos es).flatMap (·.text) =
          front ++ (layOut base i (es.filter (·.behind i))).flatMap (·.text) ∧
        ∀ g k, i ≤ k →
          carry g (layOut base pos es) k =
            carry (g + front.length) (layOut base i (es.filter (·.behind i))) k := by
  induction es generalizing pos with
  | nil =>
      have cut := kept_cut from_ within (Nat.le_refl base.length) []
      simp only [List.append_nil] at cut
      exact ⟨_, cut⟩
  | cons e rest ih =>
      obtain ⟨start_, order, upTo⟩ := chained.head
      by_cases head : e.behind i = true
      · -- All edits stand behind the offset, so the cut is in what is kept before the first of them.
        have all : (e :: rest).filter (·.behind i) = e :: rest := by
          refine List.filter_eq_self.2 fun x member => ?_
          rcases List.mem_cons.1 member with rfl | later
          · exact head
          · exact chained.behind_of_head head later
        have before : i ≤ e.start := by
          rcases (behind_iff i e).1 head with before | ⟨same, -⟩ <;> omega
        rw [all, layOut, layOut, Nat.max_eq_right (Nat.le_trans start_ order),
          Nat.max_eq_right (Nat.le_trans before order), List.append_assoc, List.append_assoc]
        exact ⟨_, kept_cut from_ before (Nat.le_trans order upTo) _⟩
      · have past : e.stop ≤ i := by
          have notInside := clear e List.mem_cons_self
          rw [behind_iff] at head
          have solid := chained.within e List.mem_cons_self
          cases e <;> simp [InRange, isOverwrite, Edit.start, Edit.stop] at notInside head solid ⊢ <;> omega
        obtain ⟨front, text, carries⟩ := ih past chained.tail fun x member => clear x (List.mem_cons_of_mem e member)
        refine ⟨base.slice pos e.start ++ e.content ++ front, ?_, fun g k later => ?_⟩
        · rw [List.filter_cons_of_neg head, layOut, Nat.max_eq_right (Nat.le_trans start_ order),
            List.flatMap_append, text, List.flatMap_append, kept_text, laid_text]
          simp only [List.append_assoc]
        · have length := Text.slice_length start_ (Nat.le_trans order upTo)
          rw [List.filter_cons_of_neg head, layOut, Nat.max_eq_right (Nat.le_trans start_ order),
            List.append_assoc, carry_kept base (Nat.le_trans order upTo) (by omega), if_neg (by omega),
            carry_laid (Nat.le_trans past later), carries _ k later]
          congr 1
          simp only [List.length_append]
          omega

/-! ## The output of a buffer -/

theorem toOutput_eq_carry (b : Buffer) {i : Nat} (within : i ≤ b.base.length) :
    b.positionMap.toOutput i = .ok (carry 0 b.pieces i) := by
  rw [PositionMap.toOutput_eq within, carry, Nat.zero_add]
  rfl

/-- An overwritten range is carried to one place. -/
theorem toOutput_covered {b : Buffer} (sound : b.Sound) {start stop : Nat} {content : Text}
    (member : Edit.overwrite start stop content ∈ b.edits) {i : Nat} (from_ : start ≤ i) (before : i < stop) :
    b.positionMap.toOutput i = b.positionMap.toOutput start := by
  have proper := (sound.inRange _ member).1
  obtain ⟨g, -, -, across⟩ := exists_overwritten sound member
  rw [across i from_ before, across start (Nat.le_refl _) proper]

/-- Other edits keep clear of an overwritten range, so its start is an offset that none has strictly inside. -/
theorem Sound.clear_start {b : Buffer} (sound : b.Sound) {start stop : Nat} {content : Text}
    (member : Edit.overwrite start stop content ∈ b.edits) :
    ∀ x ∈ b.edits, ¬ (x.start < start ∧ start < x.stop) := by
  intro x inList around
  have proper := (sound.inRange _ member).1
  have other : x ≠ .overwrite start stop content := by
    rintro rfl
    exact Nat.lt_irrefl _ around.1
  have apart := sound.apart_of_ne inList member other
  cases x <;> simp only [Edit.start, Edit.stop, Edit.Apart] at around apart <;> omega

/-- Before the layout of the edits stands only what was put in front. -/
theorem pieces_front (b : Buffer) :
    b.toText = b.intro.flatten ++ (layOut b.base 0 b.ranked).flatMap (·.text) ∧
      ∀ i, carry 0 b.pieces i = carry b.intro.flatten.length (layOut b.base 0 b.ranked) i := by
  rw [toText, pieces_eq]
  refine ⟨by rw [List.flatMap_append, laid_text]; rfl, fun i => ?_⟩
  rw [carry_laid (Nat.zero_le i), Nat.zero_add]
  rfl

/-- **The output from an offset on**: the layout from there, of the edits that stand behind it. -/
theorem toText_cut {b : Buffer} (sound : b.Sound) {i : Nat} (within : i ≤ b.base.length)
    (clear : ∀ e ∈ b.edits, ¬ (e.start < i ∧ i < e.stop)) :
    ∃ front : Text,
      b.toText = front ++ (layOut b.base i (b.ranked.filter (·.behind i))).flatMap (·.text) ∧
        b.positionMap.toOutput i = .ok front.length ∧
        ∀ k, i ≤ k → k ≤ b.base.length →
          b.positionMap.toOutput k =
            .ok (carry front.length (layOut b.base i (b.ranked.filter (·.behind i))) k) := by
  have chained := ranked_chained sound
  have clear_ : ∀ e ∈ b.ranked, ¬ (e.start < i ∧ i < e.stop) := fun e member =>
    clear e (b.ranked_perm.mem_iff.1 member)
  obtain ⟨front, text, carries⟩ := layOut_cut within (Nat.zero_le i) chained clear_
  obtain ⟨whole, moved⟩ := b.pieces_front
  have carried : ∀ k, i ≤ k → k ≤ b.base.length →
      b.positionMap.toOutput k =
        .ok (carry (b.intro.flatten ++ front).length (layOut b.base i (b.ranked.filter (·.behind i))) k) := by
    intro k later inText
    rw [toOutput_eq_carry b inText, moved, carries _ k later, List.length_append]
  refine ⟨b.intro.flatten ++ front, by rw [whole, text, List.append_assoc], ?_, carried⟩
  rw [carried i (Nat.le_refl i) within,
    carry_layOut_self within (chained.filter_behind i) fun e member => (List.mem_filter.1 member).2]

end Buffer

end Graft.Edit
