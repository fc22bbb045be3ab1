/-
# Graft.Proofs.Edit.Reference -- what a buffer's text is, offset by offset

The layout keeps a running position and cuts the base text into pieces.  The reference below does not: it
walks the offsets `0, 1, …, base.length` and puts at each one

* what was inserted there, in the order of the calls,
* what replaces the range that begins there, if one does,
* the character of the base text, unless it lies in an overwritten range.

`toText_run` says that the two agree for every sequence of calls.  It rests on `layOut_visit`: whatever is read off
the pieces of a layout can be read off by visiting the offsets one by one.
-/
import Graft.Proofs.Edit.Layout

namespace Graft.Edit

set_option autoImplicit false

/-- The character at an offset of the base, unless an edit covers it. -/
def survivor (base : Text) (covered : Nat → Bool) (i : Nat) : Text :=
  if covered i then [] else base[i]?.toList

/-- Whether the edit replaces the character at an offset. -/
def covers (i : Nat) (e : Edit) : Bool := e.start ≤ i && i < e.stop

/-- What a piece shows when edited text is read through `f`. -/
def Piece.readThrough (f : Text → Text) (p : Piece) : Text := if p.edited then f p.text else p.text

/-- What edits in layout order leave at an offset: each edit that begins there its own, and the offset what is
plain there unless an edit covers it. -/
def visit {α : Type} (own : Edit → List α) (plain : Nat → List α) (es : List Edit) (i : Nat) : List α :=
  (es.filter (·.start == i)).flatMap own ++ if es.any (covers i) then [] else plain i

/-- What edits in layout order leave at an offset, when edited text is read through `f`. -/
def readAt (f : Text → Text) (base : Text) (es : List Edit) (i : Nat) : Text :=
  (es.filter (·.start == i)).flatMap (f ·.content) ++ survivor base (fun i => es.any (covers i)) i

namespace Buffer

/-! ## Walking the offsets -/

/-- A slice read with the offset of each character: the characters of its offsets, one by one. -/
theorem slice_mapIdx {α : Type} (f : Nat → Char → α) (base : Text) (start n : Nat) :
    (base.slice start (start + n)).mapIdx (fun k => f (start + k)) =
      (List.range' start n).flatMap fun i => base[i]?.toList.map (f i) := by
  induction n generalizing start with
  | zero => simp [Text.slice]
  | succ n ih =>
      have later := ih (start + 1)
      simp only [Text.slice, show start + 1 + n - (start + 1) = n by omega] at later
      rw [List.range'_succ, List.flatMap_cons, ← later, Text.slice, show start + (n + 1) - start = n + 1 by omega]
      cases found : base[start]? with
      | none =>
          have short := List.getElem?_eq_none_iff.1 found
          rw [List.drop_eq_nil_of_le short, List.drop_eq_nil_of_le (Nat.le_succ_of_le short)]
          simp
      | some c =>
          obtain ⟨inside, rfl⟩ := List.getElem?_eq_some_iff.1 found
          rw [List.drop_eq_getElem_cons inside, List.take_succ_cons, List.mapIdx_cons, Nat.add_zero]
          simp only [Nat.add_assoc, Nat.add_comm 1]
          rfl

/-- A kept piece is read off the characters of its offsets. -/
theorem kept_flatMap {α : Type} {f : Piece → List α} {g : Nat → Char → α} {base : Text}
    (onPiece : ∀ start stop, f ⟨start, stop, base.slice start stop, false⟩ =
      (base.slice start stop).mapIdx fun k => g (start + k)) (start stop : Nat) :
    (kept base start stop).flatMap f =
      (List.range' start (stop - start)).flatMap fun i => base[i]?.toList.map (g i) := by
  unfold kept
  split
  · rename_i proper
    have read := slice_mapIdx g base start (stop - start)
    rw [show start + (stop - start) = stop by omega] at read
    rw [List.flatMap_singleton, onPiece, read]
  · rename_i empty
    rw [show stop - start = 0 by omega]
    rfl

theorem kept_readThrough (f : Text → Text) (base : Text) (start stop : Nat) :
    (kept base start stop).flatMap (Piece.readThrough f) =
      (List.range' start (stop - start)).flatMap fun i => base[i]?.toList := by
  have plain : ∀ t : Text, t.mapIdx (fun _ c => c) = t := fun t => List.ext_getElem? fun k => by simp
  rw [kept_flatMap (g := fun _ c => c) fun start stop => (plain _).symm]
  simp

theorem laid_readThrough {f : Text → Text} (nothing : f [] = []) (e : Edit) :
    (laid e).flatMap (Piece.readThrough f) = f e.content :=
  laid_flatMap e fun empty => by simp [Piece.readThrough, empty, nothing]

section

variable {α : Type} {own : Edit → List α} {plain : Nat → List α}

theorem visit_before {es : List Edit} {length pos i : Nat} (chained : Chained length pos es) (before : i < pos) :
    visit own plain es i = plain i := by
  have none_ : es.filter (·.start == i) = [] := by
    refine List.filter_eq_nil_iff.2 fun e member => ?_
    have := chained.from_ e member
    simp only [beq_iff_eq]
    omega
  have bare : es.any (covers i) = false := by
    refine List.any_eq_false.2 fun e member => ?_
    have := chained.from_ e member
    simp only [covers, Bool.and_eq_true, decide_eq_true_eq]
    omega
  simp [visit, none_, bare]

/-- An edit adds its own where it begins, and hides the offsets that it covers. -/
theorem visit_cons {e : Edit} {es : List Edit} {length pos i : Nat} (chained : Chained length pos (e :: es))
    (from_ : e.start ≤ i) :
    visit own plain (e :: es) i =
      (if i = e.start then own e else []) ++ if i < e.stop then [] else visit own plain es i := by
  by_cases covered : i < e.stop
  · have none_ : es.filter (·.start == i) = [] := by
      refine List.filter_eq_nil_iff.2 fun x member => ?_
      have := chained.tail.from_ x member
      simp only [beq_iff_eq]
      omega
    have hidden : covers i e = true := by simp [covers, from_, covered]
    simp only [visit, List.any_cons, hidden, Bool.true_or, if_true, List.append_nil, covered,
      List.filter_cons, none_, beq_iff_eq]
    split <;> rename_i same
    · simp [same]
    · simp [show i ≠ e.start from fun h => same h.symm]
  · have bare : covers i e = false := by simp [covers, covered]
    simp only [visit, List.any_cons, bare, Bool.false_or, covered, if_false, List.filter_cons,
      beq_iff_eq]
    split <;> rename_i same
    · simp [same]
    · simp [show i ≠ e.start from fun h => same h.symm]

theorem range'_split {start mid n k : Nat} (order : start ≤ mid) (reach : start + n = mid + k) :
    List.range' start n = List.range' start (mid - start) ++ List.range' mid k := by
  have joined := @List.range'_append_1 start (mid - start) k
  rw [show start + (mid - start) = mid by omega, show mid - start + k = n by omega] at joined
  exact joined.symm

theorem flatMap_range'_skip (g : Nat → List α) {start stop n k : Nat} (order : start ≤ stop)
    (reach : start + n = stop + k) :
    ((List.range' start n).flatMap fun i => if i < stop then [] else g i) = (List.range' stop k).flatMap g := by
  have skipped : ((List.range' start (stop - start)).flatMap fun i => if i < stop then [] else g i) = [] := by
    refine List.flatMap_eq_nil_iff.2 fun i member => ?_
    have := List.mem_range'_1.1 member
    exact if_pos (by omega)
  rw [range'_split order reach, List.flatMap_append, skipped, List.nil_append]
  refine List.flatMap_congr fun i member => ?_
  exact if_neg (Nat.not_lt.2 (List.mem_range'_1.1 member).1)

theorem flatMap_range'_first (c : List α) (g : Nat → List α) (start n : Nat) :
    ((List.range' start (n + 1)).flatMap fun i => (if i = start then c else []) ++ g i) =
      c ++ (List.range' start (n + 1)).flatMap g := by
  have later : ((List.range' (start + 1) n).flatMap fun i => (if i = start then c else []) ++ g i) =
      (List.range' (start + 1) n).flatMap g := by
    refine List.flatMap_congr fun i member => ?_
    rw [if_neg (by have := List.mem_range'_1.1 member; omega), List.nil_append]
  rw [List.range'_succ, List.flatMap_cons, List.flatMap_cons, later, if_pos rfl, List.append_assoc]

/-- **The layout visits the offsets one by one**, whatever is read off its pieces. -/
theorem layOut_visit {f : Piece → List α} {base : Text}
    (onKept : ∀ start stop, (kept base start stop).flatMap f = (List.range' start (stop - start)).flatMap plain)
    (onLaid : ∀ e, (laid e).flatMap f = own e) (last : plain base.length = []) {pos : Nat} {es : List Edit}
    (chained : Chained base.length pos es) :
    (layOut base pos es).flatMap f = (List.range' pos (base.length + 1 - pos)).flatMap (visit own plain es) := by
  induction es generalizing pos with
  | nil =>
      have nothing : visit own plain [] = plain := rfl
      rw [layOut, onKept, nothing]
      by_cases inside : pos ≤ base.length
      · rw [show base.length + 1 - pos = base.length - pos + 1 by omega, List.range'_concat]
        simp [show pos + (base.length - pos) = base.length by omega, last]
      · rw [show base.length + 1 - pos = 0 by omega, show base.length - pos = 0 by omega]
  | cons e rest ih =>
      obtain ⟨from_, proper, within⟩ := chained.head
      have ahead : (List.range' pos (e.start - pos)).flatMap (visit own plain (e :: rest)) =
          (List.range' pos (e.start - pos)).flatMap plain := by
        have begun : Chained base.length e.start (e :: rest) := by
          refine ⟨chained.chain, chained.within, fun x inList => ?_⟩
          rcases List.mem_cons.1 inList with rfl | later
          · exact Nat.le_refl _
          · exact Nat.le_trans proper (chained.tail.from_ x later)
        refine List.flatMap_congr fun i member => visit_before begun ?_
        have := List.mem_range'_1.1 member
        omega
      have here : (List.range' e.start (base.length + 1 - e.start)).flatMap (visit own plain (e :: rest)) =
          own e ++ (List.range' e.stop (base.length + 1 - e.stop)).flatMap (visit own plain rest) := by
        have reach : e.start + (base.length - e.start + 1) = e.stop + (base.length + 1 - e.stop) := by omega
        rw [show base.length + 1 - e.start = base.length - e.start + 1 by omega,
          ← flatMap_range'_skip _ proper reach, ← flatMap_range'_first]
        refine List.flatMap_congr fun i member => ?_
        exact visit_cons chained (List.mem_range'_1.1 member).1
      have whole : pos + (base.length + 1 - pos) = e.start + (base.length + 1 - e.start) := by omega
      rw [layOut, List.flatMap_append, List.flatMap_append, onKept, onLaid,
        Nat.max_eq_right (Nat.le_trans from_ proper), ih chained.tail, List.append_assoc, ← here, ← ahead,
        ← List.flatMap_append, ← range'_split from_ whole]

/-- The output visits what is in front and then the offsets one by one. -/
theorem pieces_visit {f : Piece → List α} {b : Buffer}
    (onKept : ∀ start stop, (kept b.base start stop).flatMap f = (List.range' start (stop - start)).flatMap plain)
    (onLaid : ∀ e, (laid e).flatMap f = own e) (last : plain b.base.length = []) (sound : b.Sound) :
    b.pieces.flatMap f =
      own (.insertion 0 b.intro.flatten) ++ (List.range (b.base.length + 1)).flatMap (visit own plain b.ranked) := by
  rw [pieces_eq, List.flatMap_append, onLaid, layOut_visit onKept onLaid last (ranked_chained sound),
    List.range_eq_range', Nat.sub_zero]

end

theorem pieces_readThrough {f : Text → Text} (nothing : f [] = []) {b : Buffer} (sound : b.Sound) :
    b.pieces.flatMap (Piece.readThrough f) =
      f b.intro.flatten ++ (List.range (b.base.length + 1)).flatMap (readAt f b.base b.ranked) :=
  pieces_visit (kept_readThrough f b.base) (laid_readThrough nothing) (by simp) sound

/-! ## The reference -/

namespace Call

/-- What the call inserts at an offset. -/
def insertedAt (i : Nat) : Call → Text
  | .insert index content => if index = i then content else []
  | _ => []

/-- What the call puts in place of a range that begins at an offset. -/
def replacementAt? (i : Nat) : Call → Option Text
  | .overwrite start _ content => if start = i then some content else none
  | _ => none

/-- Whether the call replaces the character at an offset. -/
def replaces (i : Nat) : Call → Bool
  | .overwrite start stop _ => start ≤ i && i < stop
  | _ => false

end Call

/-- What calls leave at an offset. -/
def textAt (base : Text) (calls : List Call) (i : Nat) : Text :=
  calls.flatMap (·.insertedAt i) ++ (calls.findSome? (·.replacementAt? i)).getD [] ++
    survivor base (fun i => calls.any (·.replaces i)) i

/-- The text that calls make of a base text. -/
def reference (base : Text) (calls : List Call) : Text :=
  (calls.filterMap Call.intro?).reverse.flatten ++ (List.range (base.length + 1)).flatMap (textAt base calls)

/-- The characters of the base text outside the overwritten ranges. -/
def survivors (base : Text) (calls : List Call) : Text :=
  (List.range base.length).flatMap (survivor base fun i => calls.any (·.replaces i))

/-! ## Edits and the calls that made them -/

def insertsAt (i : Nat) (e : Edit) : Bool := e.start == i && !e.isOverwrite

def replacesFrom (i : Nat) (e : Edit) : Bool := e.start == i && e.isOverwrite

/-- In layout order, what is inserted at an offset comes before what replaces the range from there. -/
theorem ranked_filter_start {es : List Edit} (sorted : Ranked es) (i : Nat) :
    es.filter (·.start == i) = es.filter (insertsAt i) ++ es.filter (replacesFrom i) := by
  induction es with
  | nil => rfl
  | cons e rest ih =>
      obtain ⟨least, tail⟩ := List.pairwise_cons.1 sorted
      simp only [List.filter_cons, ih tail]
      by_cases here : e.start = i
      · cases kind : e.isOverwrite with
        | false => simp [insertsAt, replacesFrom, here, kind]
        | true =>
            have none_ : rest.filter (insertsAt i) = [] := by
              refine List.filter_eq_nil_iff.2 fun x member inserts => ?_
              simp only [insertsAt, Bool.and_eq_true, beq_iff_eq, Bool.not_eq_true'] at inserts
              rcases (precedes_iff e x).1 (least x member) with before | ⟨-, overwrites⟩
              · omega
              · simp [overwrites kind] at inserts
            simp [insertsAt, replacesFrom, here, kind, none_]
      · simp [insertsAt, replacesFrom, here]

theorem filter_insertsAt (b : Buffer) (i : Nat) :
    b.ranked.filter (insertsAt i) = b.edits.filter (insertsAt i) := by
  refine b.ranked_filter _ fun e x first second => (precedes_iff x e).2 ?_
  simp only [insertsAt, Bool.and_eq_true, beq_iff_eq, Bool.not_eq_true'] at first second
  exact .inr ⟨by omega, fun overwrites => by simp [second.2] at overwrites⟩

theorem filter_replacesFrom (b : Buffer) (i : Nat) :
    b.ranked.filter (replacesFrom i) = b.edits.filter (replacesFrom i) := by
  refine b.ranked_filter _ fun e x first second => (precedes_iff x e).2 ?_
  simp only [replacesFrom, Bool.and_eq_true, beq_iff_eq] at first second
  exact .inr ⟨by omega, fun _ => first.2⟩

/-- What a buffer's edits leave at an offset: first the insertions there in the order they were made, then what
replaces the range from there. -/
theorem visit_ranked {α : Type} (own : Edit → List α) (plain : Nat → List α) (b : Buffer) (i : Nat) :
    visit own plain b.ranked i =
      (b.edits.filter (insertsAt i)).flatMap own ++ (b.edits.filter (replacesFrom i)).flatMap own ++
        if b.ranked.any (covers i) then [] else plain i := by
  rw [visit, ranked_filter_start b.ranked_ranked, List.flatMap_append, filter_insertsAt, filter_replacesFrom]

theorem flatMap_insertsAt {calls : List Call} (proper : ∀ c ∈ calls, c.Proper) (i : Nat) :
    ((calls.filterMap Call.edit?).filter (insertsAt i)).flatMap (·.content) =
      calls.flatMap (·.insertedAt i) := by
  induction calls with
  | nil => rfl
  | cons c rest ih =>
      have rest_ := ih fun d member => proper d (List.mem_cons_of_mem c member)
      have own := proper c List.mem_cons_self
      cases c with
      | prepend => simpa [List.filterMap_cons, Call.edit?, Call.insertedAt] using rest_
      | overwrite start stop content =>
          simpa [Call.edit?, Call.insertedAt, insertsAt, isOverwrite] using rest_
      | insert index content =>
          simp only [Call.Proper] at own
          by_cases here : index = i
          · subst here
            simpa [Call.edit?, Call.insertedAt, insertsAt, isOverwrite, Edit.start, Edit.content] using rest_
          · have elsewhere : index.toNat ≠ i := by omega
            simpa [Call.edit?, Call.insertedAt, insertsAt, isOverwrite, Edit.start, here, elsewhere] using rest_

/-- At most one range begins at an offset, because ranges stand apart. -/
theorem flatMap_replacesFrom {calls : List Call} (proper : ∀ c ∈ calls, c.Proper)
    (apart : (calls.filterMap Call.edit?).Pairwise Edit.Apart) (i : Nat) :
    ((calls.filterMap Call.edit?).filter (replacesFrom i)).flatMap (·.content) =
      (calls.findSome? (·.replacementAt? i)).getD [] := by
  induction calls with
  | nil => rfl
  | cons c rest ih =>
      have properRest : ∀ d ∈ rest, d.Proper := fun d member => proper d (List.mem_cons_of_mem c member)
      have own := proper c List.mem_cons_self
      cases c with
      | prepend => simpa [List.filterMap_cons, Call.edit?, Call.replacementAt?] using ih properRest apart
      | insert index content =>
          have tail := (List.pairwise_cons.1 apart).2
          simpa [Call.edit?, Call.replacementAt?, replacesFrom, isOverwrite] using ih properRest tail
      | overwrite start stop content =>
          obtain ⟨clear, tail⟩ := List.pairwise_cons.1 apart
          simp only [Call.Proper] at own
          by_cases here : start = i
          · have none_ : (rest.filterMap Call.edit?).filter (replacesFrom i) = [] := by
              refine List.filter_eq_nil_iff.2 fun x member replaces => ?_
              have beside := clear x member
              obtain ⟨d, inRest, made⟩ := List.mem_filterMap.1 member
              have range := properRest d inRest
              cases d <;> simp only [Call.edit?, Option.some.injEq, reduceCtorEq] at made <;> subst made <;>
                simp [replacesFrom, isOverwrite, Edit.start, Edit.Apart, Call.Proper] at replaces beside range
              omega
            subst here
            simp [Call.edit?, Call.replacementAt?, replacesFrom, isOverwrite, Edit.start, Edit.content, none_]
          · have elsewhere : start.toNat ≠ i := by omega
            simpa [Call.edit?, Call.replacementAt?, replacesFrom, isOverwrite, Edit.start, here, elsewhere]
              using ih properRest tail

theorem any_covers {calls : List Call} (proper : ∀ c ∈ calls, c.Proper) (i : Nat) :
    (calls.filterMap Call.edit?).any (covers i) = calls.any (·.replaces i) := by
  induction calls with
  | nil => rfl
  | cons c rest ih =>
      have rest_ := ih fun d member => proper d (List.mem_cons_of_mem c member)
      have own := proper c List.mem_cons_self
      cases c with
      | prepend => simpa [List.filterMap_cons, Call.edit?, Call.replaces] using rest_
      | insert index content =>
          have bare : covers i (.insertion index.toNat content) = false := by
            simp [covers, Edit.start, Edit.stop]
          simpa [Call.edit?, Call.replaces, bare] using rest_
      | overwrite start stop content =>
          simp only [Call.Proper] at own
          have same : covers i (.overwrite start.toNat stop.toNat content) =
              (Call.overwrite start stop content).replaces i := by
            simp only [covers, Edit.start, Edit.stop, Call.replaces]
            congr 1 <;> exact decide_eq_decide.2 (by omega)
          simp [Call.edit?, same, rest_]

theorem any_covers_run (base : Text) (calls : List Call) (i : Nat) :
    ((ofText base).run calls).ranked.any (covers i) =
      ((ofText base).accepted calls).any (·.replaces i) := by
  rw [(ranked_perm _).any_eq, ofText_edits, any_covers fun _ => accepted_proper]

/-- What the sorted edits of a run leave at an offset is what its accepted calls leave there. -/
theorem readAt_run (base : Text) (calls : List Call) (i : Nat) :
    readAt id base ((ofText base).run calls).ranked i = textAt base ((ofText base).accepted calls) i := by
  have proper : ∀ c ∈ (ofText base).accepted calls, c.Proper := fun _ => accepted_proper
  have apart := (ofText_sound base calls).apart
  rw [ofText_edits] at apart
  have visited := visit_ranked (·.content) (fun i => base[i]?.toList) ((ofText base).run calls) i
  rw [ofText_edits, flatMap_insertsAt proper, flatMap_replacesFrom proper apart, any_covers_run] at visited
  exact visited

theorem run_toText (base : Text) (calls : List Call) :
    ((ofText base).run calls).toText = reference base ((ofText base).accepted calls) := by
  have plain : Piece.readThrough id = fun p => p.text := by
    funext p
    simp [Piece.readThrough]
  have read := pieces_readThrough (f := id) rfl (ofText_sound base calls)
  rw [plain, run_base, ofText_intro, show (ofText base).base = base from rfl] at read
  rw [toText, read, reference]
  exact congrArg _ (List.flatMap_congr fun i _ => readAt_run base calls i)

theorem flatMap_unedited (ps : List Piece) :
    (ps.filter (!·.edited)).flatMap (·.text) = ps.flatMap (Piece.readThrough fun _ => []) := by
  induction ps with
  | nil => rfl
  | cons p rest ih => cases kind : p.edited <;> simp [kind, Piece.readThrough, ← ih]

theorem run_unedited (base : Text) (calls : List Call) :
    (((ofText base).run calls).pieces.filter (!·.edited)).flatMap (·.text) =
      survivors base ((ofText base).accepted calls) := by
  have bare : readAt (fun _ => []) base ((ofText base).run calls).ranked =
      survivor base fun i => ((ofText base).accepted calls).any (·.replaces i) := by
    funext i
    simp [readAt, survivor, any_covers_run]
  have read := pieces_readThrough (f := fun _ => []) rfl (ofText_sound base calls)
  rw [run_base, show (ofText base).base = base from rfl, bare, List.range_succ, List.flatMap_append] at read
  rw [flatMap_unedited, read, survivors]
  simp [survivor]

/-- **A buffer's text is the reference text of the accepted calls**, and what it keeps of the base text are
the characters outside the overwritten ranges, each once and in order. -/
theorem toText_run (base : Text) (calls : List Call) :
    ((ofText base).run calls).toText = reference base ((ofText base).accepted calls) ∧
      (((ofText base).run calls).pieces.filter (!·.edited)).flatMap (·.text) =
        survivors base ((ofText base).accepted calls) :=
  ⟨run_toText base calls, run_unedited base calls⟩

/-- Insertions at both ends of an overwritten range, one refused inside it, and a text in front. -/
example : ((ofText "abcd".toList).run [.overwrite 1 3 "XY".toList, .insert 1 "<".toList, .insert 2 "?".toList,
    .insert 3 ">".toList, .prepend "^".toList]).toText = "^a<XY>d".toList := by decide

end Buffer

end Graft.Edit
