/-
# Graft.Proofs.Regex.Shift -- matching behind a line in front

A line in front of a text moves everything that is matched behind it, and changes nothing else: to the pattern
the end of a line is as good as the start of the text.  Patterns that ask for the start of the text itself, or
look behind, are left out, and so is the absence of a word boundary, which an empty text has nowhere
(`Pattern.isLocal`).

* `run_shift`: a run behind the line is the run without it, moved.  The induction is on the pattern, in lockstep
  on the fuel of its repetitions.
* `search_append`, `findAll_append`: so are searches, if no match begins in the line.
-/
import Graft.Proofs.Regex.Matches

namespace Graft.Regex

set_option autoImplicit false

/-- What is asked of the place is the same at the start of a text and behind a line. -/
def Anchor.isLocal : Anchor → Bool
  | .textStart => false
  | .wordBoundary negated _ => !negated
  | _ => true

def Pattern.isLocal : Pattern → Bool
  | .anchor a => a.isLocal
  | .behind _ _ _ => false
  | .seq a b => a.isLocal && b.isLocal
  | .alt a b => a.isLocal && b.isLocal
  | .group _ body => body.isLocal
  | .repeatGroup _ _ _ body => body.isLocal
  | .atomic body => body.isLocal
  | .ahead _ body => body.isLocal
  | .ifGroup _ yes no => yes.isLocal && no.isLocal
  | _ => true

/-! ## Moving -/

def Span.shift (n : Nat) (s : Span) : Span := ⟨n + s.start, n + s.stop⟩

def State.shift (n : Nat) (st : State) : State := ⟨n + st.pos, st.groups.map (·.map (·.shift n))⟩

def Match.shift (n : Nat) (m : Match) : Match := ⟨m.span.shift n, m.groups.map (·.map (·.shift n))⟩

theorem State.shift_moved (n : Nat) (st : State) (pos : Nat) :
    (st.moved pos).shift n = (st.shift n).moved (n + pos) := rfl

theorem State.shift_group? (n : Nat) (st : State) (index : Nat) :
    (st.shift n).group? index = (st.group? index).map (·.shift n) := by
  simp only [State.group?, State.shift, List.getElem?_map]
  cases st.groups[index - 1]? <;> rfl

theorem State.shift_referred? (n : Nat) (st : State) (index : Nat) :
    (st.shift n).referred? index = (st.referred? index).map (·.shift n) := by
  simp only [State.referred?, State.shift_group?]
  cases st.group? index with
  | none => rfl
  | some s => simp [Option.filter, Span.shift, apply_ite (Option.map _)]

theorem State.shift_setGroup (n : Nat) (st : State) (index : Nat) (s : Span) :
    (st.setGroup index s).shift n = (st.shift n).setGroup index (s.shift n) := by
  simp [State.setGroup, State.shift, List.map_set]

/-- What follows does so behind the line as it does without it. -/
def Agrees (n : Nat) (follow follow' : Follow) : Prop := ∀ st, follow' (st.shift n) = (follow st).map (·.shift n)

theorem agrees_some (n : Nat) : Agrees n some some := fun _ => rfl

section Line

variable (line t : Text)

/-- The text behind the line. -/
def behindLine : Array Char := (line ++ '\n' :: t).toArray

/-- How far the line moves the text. -/
def lineWidth : Nat := line.length + 1

theorem behindLine_getElem? (i : Nat) : (behindLine line t)[lineWidth line + i]? = t.toArray[i]? := by
  simp only [behindLine, lineWidth, List.getElem?_toArray]
  rw [List.getElem?_append_right (by omega), show line.length + 1 + i - line.length = i + 1 by omega,
    List.getElem?_cons_succ]

theorem behindLine_size : (behindLine line t).size = lineWidth line + t.toArray.size := by
  simp only [behindLine, lineWidth, List.size_toArray, List.length_append, List.length_cons]
  omega

theorem passes_shift (p : Char → Bool) (i : Nat) :
    passes (behindLine line t) p (lineWidth line + i) = passes t.toArray p i := by
  rw [passes, passes, behindLine_getElem?]

theorem passes_lineEnd (p : Char → Bool) : passes (behindLine line t) p (lineWidth line - 1) = p '\n' := by
  have here : (behindLine line t)[lineWidth line - 1]? = some '\n' := by
    simp [behindLine, lineWidth]
  rw [passes, here]
  rfl

theorem lineEnd_notWord (ascii : Bool) : CharKind.word.holds ascii '\n' = false := by
  cases ascii <;> decide

/-- Between words it is the characters on both sides that count, and an empty text has none. -/
theorem wordBoundary_holds (text : Array Char) (pos : Nat) (ascii : Bool) :
    (Anchor.wordBoundary false ascii).holds text pos =
      ((pos != 0 && passes text (CharKind.word.holds ascii) (pos - 1)) !=
        passes text (CharKind.word.holds ascii) pos) := by
  by_cases empty : text.size = 0
  · have none_ : ∀ i, passes text (CharKind.word.holds ascii) i = false := fun i => by
      rw [passes, Array.getElem?_eq_none (by omega)]
      rfl
    simp [Anchor.holds, empty, none_]
  · simp [Anchor.holds, empty]

theorem anchor_shift {a : Anchor} (isLocal : a.isLocal = true) (pos : Nat) :
    a.holds (behindLine line t) (lineWidth line + pos) = a.holds t.toArray pos := by
  have positive : 0 < lineWidth line := Nat.succ_pos _
  have before : ∀ pos, lineWidth line + (pos + 1) - 1 = lineWidth line + pos := fun _ => by omega
  cases a with
  | textStart => simp [Anchor.isLocal] at isLocal
  | lineStart =>
      cases pos with
      | zero => simp [Anchor.holds, passes_lineEnd]
      | succ pos => simp [Anchor.holds, before, passes_shift]
  | textEnd => simp [Anchor.holds, behindLine_size]
  | lastLineEnd =>
      simp only [Anchor.holds, passes_shift, behindLine_size, Nat.add_left_cancel_iff, Nat.add_assoc]
  | lineEnd => simp [Anchor.holds, behindLine_size, passes_shift]
  | wordBoundary negated ascii =>
      obtain rfl : negated = false := by simpa [Anchor.isLocal] using isLocal
      rw [wordBoundary_holds, wordBoundary_holds, passes_shift]
      cases pos with
      | zero => simp [passes_lineEnd, lineEnd_notWord]
      | succ pos => simp [before, passes_shift, Nat.ne_of_gt positive]

/-! ## Parts of a run -/

theorem runLength_shift (p : Char → Bool) (pos limit : Nat) :
    runLength (behindLine line t) p (lineWidth line + pos) limit = runLength t.toArray p pos limit := by
  induction limit generalizing pos with
  | zero => rfl
  | succ limit ih => simp only [runLength, passes_shift, Nat.add_assoc, ih]

theorem longestRun_shift (p : Char → Bool) (most : Option Nat) (pos : Nat) :
    longestRun (behindLine line t) p most (lineWidth line + pos) = longestRun t.toArray p most pos := by
  have left : (behindLine line t).size - (lineWidth line + pos) = t.toArray.size - pos := by
    rw [behindLine_size]
    exact Nat.add_sub_add_left _ _ _
  rw [longestRun, longestRun, left, runLength_shift]

theorem tryDown_shift {f f' : Nat → Option State} (least extra n : Nat)
    (agree : ∀ k, f' k = (f k).map (·.shift n)) :
    tryDown f' least extra = (tryDown f least extra).map (·.shift n) := by
  induction extra with
  | zero => exact agree least
  | succ extra ih =>
      simp only [tryDown, agree, ih]
      cases f (least + (extra + 1)) <;> rfl

theorem tryUp_shift {f f' : Nat → Option State} (least extra n : Nat)
    (agree : ∀ k, f' k = (f k).map (·.shift n)) :
    tryUp f' least extra = (tryUp f least extra).map (·.shift n) := by
  induction extra generalizing least with
  | zero => exact agree least
  | succ extra ih =>
      simp only [tryUp, agree, ih]
      cases f least <;> rfl

theorem runChars_shift {p : Char → Bool} {greed : Greed} {least : Nat} {most : Option Nat}
    {follow follow' : Follow} (agrees : Agrees (lineWidth line) follow follow') (st : State) :
    runChars (behindLine line t) p greed least most follow' (st.shift (lineWidth line)) =
      (runChars t.toArray p greed least most follow st).map (·.shift (lineWidth line)) := by
  have after : ∀ k, follow' ((st.shift (lineWidth line)).moved ((st.shift (lineWidth line)).pos + k)) =
      (follow (st.moved (st.pos + k))).map (·.shift (lineWidth line)) := by
    intro k
    rw [← agrees, State.shift_moved, ← Nat.add_assoc]
    rfl
  have run_ : longestRun (behindLine line t) p most (st.shift (lineWidth line)).pos =
      longestRun t.toArray p most st.pos := longestRun_shift line t p most st.pos
  simp only [runChars, run_]
  split
  · rfl
  · cases greed with
    | greedy => exact tryDown_shift _ _ _ after
    | reluctant => exact tryUp_shift _ _ _ after
    | possessive => exact after _

theorem repeatsSpan_shift (f : Folding) (s : Span) (pos : Nat) :
    repeatsSpan (behindLine line t) f (s.shift (lineWidth line)) (lineWidth line + pos) =
      repeatsSpan t.toArray f s pos := by
  simp only [repeatsSpan, Span.shift, Nat.add_sub_add_left, Nat.add_assoc, behindLine_getElem?]

end Line

section Rounds

variable {n : Nat} {body body' : Follow → Follow}

/-- The rounds of a repetition that is moved, if one round is. -/
theorem loop_shift (round : ∀ {follow follow'}, Agrees n follow follow' → Agrees n (body follow) (body' follow'))
    {greed : Greed} {least : Nat} {most : Option Nat} {follow follow' : Follow} (agrees : Agrees n follow follow')
    (fuel count : Nat) (last : Option Nat) :
    Agrees n (loop body greed least most follow fuel count last)
      (loop body' greed least most follow' fuel count (last.map (n + ·))) := by
  induction fuel generalizing count last with
  | zero => exact agrees
  | succ fuel ih =>
      intro st
      have again : body' (loop body' greed least most follow' fuel (count + 1) (some (n + st.pos))) (st.shift n) =
          (body (loop body greed least most follow fuel (count + 1) (some st.pos)) st).map (·.shift n) :=
        round (ih (count + 1) (some st.pos)) st
      have moves : (last.map (n + ·) != some (n + st.pos)) = (last != some st.pos) := by
        rw [Bool.eq_iff_iff, bne_iff_ne, bne_iff_ne]
        cases last <;> simp
      simp only [loop, show (st.shift n).pos = n + st.pos from rfl, moves]
      split
      · exact round (ih (count + 1) last) st
      · cases allowed : mayRepeat most count && last != some st.pos with
        | false =>
            cases greed <;> simp only [Bool.false_eq_true, if_false, agrees st]
            cases follow st <;> rfl
        | true =>
            simp only [if_true, again, agrees st]
            cases greed with
            | greedy => cases body (loop body .greedy least most follow fuel (count + 1) (some st.pos)) st <;> rfl
            | reluctant => cases follow st <;> rfl
            | possessive =>
                have settled := round (agrees_some n) st
                simp only [settled]
                cases body some st with
                | none => rfl
                | some st' => exact ih (count + 1) (some st.pos) st'

theorem settle_shift
    (round : ∀ {follow follow'}, Agrees n follow follow' → Agrees n (body follow) (body' follow'))
    (count : Nat) : Agrees n (settle body count) (settle body' count) := by
  induction count with
  | zero => exact agrees_some n
  | succ count ih =>
      intro st
      simp only [settle, round (agrees_some n) st]
      cases body some st with
      | none => rfl
      | some st' => exact ih st'

end Rounds

/-! ## Runs -/

/-- **Behind a line, a run is moved and otherwise the same.** -/
theorem run_shift (line t : Text) {p : Pattern} (isLocal : p.isLocal = true) {follow follow' : Follow}
    (agrees : Agrees (lineWidth line) follow follow') :
    Agrees (lineWidth line) (p.run t.toArray follow) (p.run (behindLine line t) follow') := by
  induction p generalizing follow follow' with
  | empty => exact agrees
  | char test =>
      intro st
      have moved : (st.shift (lineWidth line)).moved ((st.shift (lineWidth line)).pos + 1) =
          (st.moved (st.pos + 1)).shift (lineWidth line) := rfl
      simp only [Pattern.run, show (st.shift (lineWidth line)).pos = lineWidth line + st.pos from rfl, passes_shift]
      split
      · exact agrees (st.moved (st.pos + 1))
      · rfl
  | anchor a =>
      intro st
      simp only [Pattern.run, show (st.shift (lineWidth line)).pos = lineWidth line + st.pos from rfl,
        anchor_shift line t isLocal]
      split
      · exact agrees st
      · rfl
  | seq a b ihA ihB =>
      simp only [Pattern.isLocal, Bool.and_eq_true] at isLocal
      exact ihA isLocal.1 (ihB isLocal.2 agrees)
  | alt a b ihA ihB =>
      simp only [Pattern.isLocal, Bool.and_eq_true] at isLocal
      intro st
      simp only [Pattern.run, ihA isLocal.1 agrees st, ihB isLocal.2 agrees st]
      cases a.run t.toArray follow st <;> rfl
  | group index body ih =>
      intro st
      refine ih isLocal (fun st' => ?_) st
      rw [← agrees, State.shift_setGroup]
      rfl
  | backref index f =>
      intro st
      simp only [Pattern.run, State.shift_referred?]
      cases st.referred? index with
      | none => rfl
      | some s =>
          simp only [Option.map_some, show (st.shift (lineWidth line)).pos = lineWidth line + st.pos from rfl,
            repeatsSpan_shift]
          split
          · rw [← agrees, State.shift_moved]
            simp only [Span.shift, Nat.add_sub_add_left, Nat.add_assoc]
          · rfl
  | repeatChar greed least most test => exact runChars_shift line t agrees
  | repeatGroup greed least most body ih =>
      intro st
      have fuel : ∀ least (st : State), loopFuel (behindLine line t) least (st.shift (lineWidth line)).pos =
          loopFuel t.toArray least st.pos := by
        intro least st
        rw [loopFuel, loopFuel, behindLine_size, State.shift, Nat.add_sub_add_left]
      cases greed with
      | possessive =>
          simp only [Pattern.run, settle_shift (ih isLocal) least st]
          cases settle (body.run t.toArray) least st with
          | none => rfl
          | some st' =>
              simp only [Option.map_some, Option.bind_some, fuel]
              exact loop_shift (ih isLocal) agrees _ least none st'
      | greedy =>
          simp only [Pattern.run, fuel]
          exact loop_shift (ih isLocal) agrees _ 0 none st
      | reluctant =>
          simp only [Pattern.run, fuel]
          exact loop_shift (ih isLocal) agrees _ 0 none st
  | atomic body ih =>
      intro st
      simp only [Pattern.run, ih isLocal (agrees_some _) st]
      cases body.run t.toArray some st with
      | none => rfl
      | some st' => exact agrees st'
  | ahead negated body ih =>
      intro st
      simp only [Pattern.run, ih isLocal (agrees_some _) st]
      cases body.run t.toArray some st with
      | none =>
          cases negated with
          | false => rfl
          | true => exact agrees st
      | some st' =>
          cases negated with
          | false => exact agrees (st'.moved st.pos)
          | true => rfl
  | behind negated width body => simp [Pattern.isLocal] at isLocal
  | ifGroup index yes no ihYes ihNo =>
      simp only [Pattern.isLocal, Bool.and_eq_true] at isLocal
      intro st
      simp only [Pattern.run, State.shift_referred?, Option.isSome_map]
      split
      · exact ihYes isLocal.1 agrees st
      · exact ihNo isLocal.2 agrees st

/-! ## Matches -/

/-- A search may begin behind places at which no match begins. -/
theorem searchFrom_skip {r : Regex} {text : Array Char} {k : Nat} (start count : Nat)
    (clear : ∀ i, start ≤ i → i < start + k → matchAt? r text i false = none) :
    searchFrom r text (k + count) start false = searchFrom r text count (start + k) false := by
  induction k generalizing start with
  | zero => rw [Nat.zero_add, Nat.add_zero]
  | succ k ih =>
      rw [show k + 1 + count = k + count + 1 by omega, searchFrom, clear start (Nat.le_refl _) (by omega)]
      rw [ih (start + 1) fun i from_ before => clear i (by omega) (by omega),
        show start + 1 + k = start + (k + 1) by omega]

section Matches

variable {r : Regex} (steady : isSteady r = true) (isLocal : r.pattern.isLocal = true) (line t : Text)
include steady isLocal

theorem matchAt?_shift (start : Nat) (moving : Bool) :
    matchAt? r (behindLine line t) (lineWidth line + start) moving =
      (matchAt? r t.toArray start moving).map (·.shift (lineWidth line)) := by
  have finish_ : Agrees (lineWidth line) (finish start moving) (finish (lineWidth line + start) moving) := by
    intro st
    have same : (lineWidth line + st.pos == lineWidth line + start) = (st.pos == start) := by
      rw [Bool.eq_iff_iff, beq_iff_eq, beq_iff_eq, Nat.add_left_cancel_iff]
    simp only [finish, State.shift, same]
    split <;> rfl
  have begun : startState r (lineWidth line + start) = (startState r start).shift (lineWidth line) := by
    simp [startState, State.shift]
  simp only [matchAt?_eq_runAt? steady, runAt?, begun, run_shift line t isLocal finish_ _, Option.map_map]
  rfl

theorem searchFrom_shift (count start : Nat) (moving : Bool) :
    searchFrom r (behindLine line t) count (lineWidth line + start) moving =
      (searchFrom r t.toArray count start moving).map (·.shift (lineWidth line)) := by
  induction count generalizing start moving with
  | zero => rfl
  | succ count ih =>
      simp only [searchFrom, matchAt?_shift steady isLocal, Nat.add_assoc, ih]
      cases matchAt? r t.toArray start moving <;> rfl

theorem matchesFrom_shift (fuel start : Nat) (moving : Bool) :
    matchesFrom r (behindLine line t) fuel (lineWidth line + start) moving =
      (matchesFrom r t.toArray fuel start moving).map (·.shift (lineWidth line)) := by
  induction fuel generalizing start moving with
  | zero => rfl
  | succ fuel ih =>
      have count : (behindLine line t).size + 1 - (lineWidth line + start) = t.toArray.size + 1 - start := by
        rw [behindLine_size]
        omega
      simp only [matchesFrom, count, searchFrom_shift steady isLocal]
      cases searchFrom r t.toArray (t.toArray.size + 1 - start) start moving with
      | none => rfl
      | some m =>
          have same : (lineWidth line + m.span.start == lineWidth line + m.span.stop) =
              (m.span.start == m.span.stop) := by
            rw [Bool.eq_iff_iff, beq_iff_eq, beq_iff_eq, Nat.add_left_cancel_iff]
          simp only [Option.map_some, Match.shift, Span.shift, same, ih, List.map_cons]

variable (clear : ∀ i < lineWidth line, matchAt? r (behindLine line t) i false = none)
include clear

/-- The first match behind a line in which none begins. -/
theorem searchFrom_behindLine :
    searchFrom r (behindLine line t) ((behindLine line t).size + 1) 0 false =
      (searchFrom r t.toArray (t.toArray.size + 1) 0 false).map (·.shift (lineWidth line)) := by
  rw [behindLine_size, Nat.add_assoc, searchFrom_skip 0 _ fun i _ before => clear i (by omega), Nat.zero_add]
  exact searchFrom_shift steady isLocal line t _ 0 false

/-- **A search behind a line in which no match begins.** -/
theorem search_append :
    search r (line ++ '\n' :: t) = (search r t).map (·.shift (lineWidth line)) :=
  searchFrom_behindLine steady isLocal line t clear

end Matches

/-! ## All matches -/

theorem matchesFrom_succ (r : Regex) (text : Array Char) (fuel start : Nat) (moving : Bool) :
    matchesFrom r text (fuel + 1) start moving =
      match searchFrom r text (text.size + 1 - start) start moving with
      | some m => m :: matchesFrom r text fuel m.span.stop (m.span.start == m.span.stop)
      | none => [] := rfl

/-- How many matches there can be from a place on: one that is empty and one that is not at each place. -/
def matchRoom (text : Array Char) (start : Nat) (moving : Bool) : Nat :=
  2 * (text.size - start) + if moving then 0 else 1

theorem searchFrom_moving {r : Regex} {text : Array Char} {count start : Nat} {moving : Bool} {m : Match}
    (found : searchFrom r text count start moving = some m) (empty : m.span.start = m.span.stop) :
    moving = false ∨ start < m.span.start := by
  cases count with
  | zero => simp [searchFrom] at found
  | succ count =>
      simp only [searchFrom] at found
      split at found
      · rename_i m' here
        obtain rfl := Option.some.inj found
        cases moving with
        | false => exact .inl rfl
        | true => exact absurd (empty ▸ (matchAt?_onward here).1) (matchAt?_moving here)
      · exact .inr (searchFrom_order found).1

/-- A match leaves less room than there was. -/
theorem matchRoom_lt {r : Regex} {text : Array Char} {start : Nat} {moving : Bool} {m : Match}
    (within : start ≤ text.size)
    (found : searchFrom r text (text.size + 1 - start) start moving = some m) :
    m.span.stop ≤ text.size ∧
      matchRoom text m.span.stop (m.span.start == m.span.stop) < matchRoom text start moving := by
  obtain ⟨from_, before, moving', at_⟩ := searchFrom_some found
  have order := (searchFrom_order found).2
  have stop : m.span.stop ≤ text.size := (matchAt?_onward at_).2.within (by omega)
  refine ⟨stop, ?_⟩
  unfold matchRoom
  by_cases empty : m.span.start = m.span.stop
  · rw [beq_iff_eq.2 empty, if_pos rfl]
    rcases searchFrom_moving found empty with rfl | moved
    · rw [if_neg Bool.false_ne_true]
      omega
    · split <;> omega
  · rw [beq_eq_false_iff_ne.2 empty, if_neg Bool.false_ne_true]
    split <;> omega

/-- With fuel for as many matches as there is room for, more fuel finds no more. -/
theorem matchesFrom_fuel {r : Regex} {text : Array Char} {fuel fuel' start : Nat} {moving : Bool}
    (within : start ≤ text.size) (enough : matchRoom text start moving ≤ fuel)
    (enough' : matchRoom text start moving ≤ fuel') :
    matchesFrom r text fuel start moving = matchesFrom r text fuel' start moving := by
  have nothing : ∀ {fuel : Nat} {start : Nat} {moving : Bool}, start ≤ text.size →
      matchRoom text start moving ≤ 0 → matchesFrom r text fuel start moving = [] := by
    intro fuel start moving within full
    cases fuel with
    | zero => rfl
    | succ fuel =>
        simp only [matchesFrom]
        split
        · rename_i m found
          have := (matchRoom_lt within found).2
          omega
        · rfl
  induction fuel generalizing fuel' start moving with
  | zero => rw [nothing within enough, nothing within enough]
  | succ fuel ih =>
      cases fuel' with
      | zero => rw [nothing within enough', nothing within enough']
      | succ fuel' =>
          simp only [matchesFrom]
          split
          · rename_i m found
            obtain ⟨stop, less⟩ := matchRoom_lt within found
            have upTo : matchRoom text m.span.stop (m.span.start == m.span.stop) ≤ fuel' := by omega
            rw [ih stop (by omega) upTo]
          · rfl

/-- **All matches behind a line in which none begins.** -/
theorem findAll_append {r : Regex} (steady : isSteady r = true) (isLocal : r.pattern.isLocal = true) (line t : Text)
    (clear : ∀ i < lineWidth line, matchAt? r (behindLine line t) i false = none) :
    findAll r (line ++ '\n' :: t) = (findAll r t).map (·.shift (lineWidth line)) := by
  have size : (line ++ '\n' :: t).length = (behindLine line t).size := by simp [behindLine]
  have first : findAll r (line ++ '\n' :: t) =
      (matchesFrom r t.toArray (2 * (behindLine line t).size + 2) 0 false).map (·.shift (lineWidth line)) := by
    rw [findAll, size]
    change matchesFrom r (behindLine line t) _ 0 false = _
    rw [matchesFrom_succ, matchesFrom_succ, Nat.sub_zero, Nat.sub_zero,
    searchFrom_behindLine steady isLocal line t clear]
    cases searchFrom r t.toArray (t.toArray.size + 1) 0 false with
    | none => rfl
    | some m =>
        have same : (lineWidth line + m.span.start == lineWidth line + m.span.stop) =
            (m.span.start == m.span.stop) := by
          rw [Bool.eq_iff_iff, beq_iff_eq, beq_iff_eq, Nat.add_left_cancel_iff]
        simp only [Option.map_some, List.map_cons, ← matchesFrom_shift steady isLocal, ← same]
        rfl
  rw [first, findAll]
  refine congrArg _ (matchesFrom_fuel (Nat.zero_le _) ?_ ?_)
  · have := behindLine_size line t
    simp only [matchRoom, Bool.false_eq_true, if_false]
    omega
  · simp only [matchRoom, Bool.false_eq_true, if_false, List.size_toArray]
    omega

end Graft.Regex
