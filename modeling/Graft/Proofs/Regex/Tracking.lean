/-
# Graft.Proofs.Regex.Tracking -- marks that keep to the groups

`Pattern.track` keeps marks that a failed way may have changed, `Pattern.run` a state that it cannot change.  For a
steady pattern the two find the same (`matchAt?_eq_runAt?`).  A pattern is steady if its groups are numbered in the
order in which they begin, no group is asked for while it is open, and no possessive repetition has groups unless
another repetition is around it.

What carries the proof is how little a failed way can change.  Outside repetitions nothing from here on has been
marked yet, so it changes marks above all that are set, and the ends of groups that are open; the former are taken
away again, the latter nobody asks for.  Inside repetitions the marks are put back as they were, so only what is
outside of the outermost one matters: `floor` is where that begins, and `top` where it ends.
-/
import Graft.Proofs.Regex.Run

namespace Graft.Regex

set_option autoImplicit false

/-! ## Marks -/

namespace Marks

variable {m m' lost : Marks} {i j pos : Nat}

@[simp] theorem at?_put_self (m : Marks) (i pos : Nat) : (m.put i pos).at? i = some pos := by
  rw [put, at?, List.getElem?_set_self (by rw [List.length_append, List.length_replicate]; omega)]
  rfl

theorem at?_put_ne (apart : i ≠ j) : (m.put i pos).at? j = m.at? j := by
  rw [put, at?, at?, List.getElem?_set_ne apart]
  by_cases inside : j < m.length
  · rw [List.getElem?_append_left inside]
  · rw [List.getElem?_append_right (Nat.le_of_not_lt inside), List.getElem?_eq_none (Nat.le_of_not_lt inside),
      List.getElem?_replicate]
    split <;> rfl

theorem length_put (m : Marks) (i pos : Nat) : (m.put i pos).length = max m.length (i + 1) := by
  rw [put, List.length_set, List.length_append, List.length_replicate]
  omega

theorem length_restore_le (looped : Bool) : (m.restore looped lost).length ≤ m.length := by
  unfold restore
  split
  · exact Nat.le_refl _
  · exact List.length_take_le _ _

/-- The ends of these groups. -/
def IsEnd (opened : List (Nat × Nat)) (i : Nat) : Prop := ∃ g ∈ opened, i = startMark g.1 + 1

/-- Up to the marks of `floor` groups the marks are the same, but for the ends of groups that are open. -/
def Keeps (floor : Nat) (opened : List (Nat × Nat)) (m m' : Marks) : Prop :=
  ∀ i < 2 * floor, ¬ IsEnd opened i → m'.at? i = m.at? i

variable {floor floor' : Nat} {opened : List (Nat × Nat)} {g : Nat × Nat}

theorem Keeps.refl (floor : Nat) (opened : List (Nat × Nat)) (m : Marks) : Keeps floor opened m m := fun _ _ _ => rfl

theorem Keeps.trans {m'' : Marks} (first : Keeps floor opened m m') (second : Keeps floor opened m' m'') :
    Keeps floor opened m m'' := fun i below open_ => (second i below open_).trans (first i below open_)

theorem Keeps.lower (le : floor ≤ floor') (keeps : Keeps floor' opened m m') : Keeps floor opened m m' :=
  fun i below open_ => keeps i (by omega) open_

theorem Keeps.put_above (above : 2 * floor ≤ i) : Keeps floor opened m (m.put i pos) :=
  fun _ below _ => at?_put_ne (by omega)

theorem Keeps.put_end (member : g ∈ opened) : Keeps floor opened m (m.put (startMark g.1 + 1) pos) :=
  fun _ _ open_ => at?_put_ne fun same => open_ ⟨g, member, same.symm⟩

theorem Keeps.opens (keeps : Keeps floor opened m m') : Keeps floor (g :: opened) m m' :=
  fun i below open_ => keeps i below fun ⟨g', member, same⟩ => open_ ⟨g', List.mem_cons_of_mem g member, same⟩

/-- A group whose marks are above the floor need not be named. -/
theorem Keeps.closes (above : 2 * floor ≤ startMark g.1) (keeps : Keeps floor (g :: opened) m m') :
    Keeps floor opened m m' := by
  refine fun i below open_ => keeps i below ?_
  rintro ⟨g', member, same⟩
  rcases List.mem_cons.1 member with rfl | member
  · omega
  · exact open_ ⟨g', member, same⟩

theorem at?_take {n : Nat} : at? (List.take n m) i = if i < n then m.at? i else none := by
  rw [at?, List.getElem?_take]
  split <;> rfl

theorem at?_of_length_le (outside : m.length ≤ i) : m.at? i = none := by
  rw [at?, List.getElem?_eq_none outside]
  rfl

theorem Keeps.restore (looped : Bool) (keeps : Keeps floor opened m lost) :
    Keeps floor opened m (m.restore looped lost) := by
  unfold Marks.restore
  split
  · exact .refl floor opened m
  · intro i below open_
    rw [at?_take]
    split
    · exact keeps i below open_
    · exact (at?_of_length_le (by omega)).symm

/-- What is restored has the marks of every group that is closed, if all that is marked is kept. -/
theorem at?_restore {looped : Bool} (keeps : Keeps floor opened m lost)
    (all : looped = false → m.length ≤ 2 * floor) (open_ : ¬ IsEnd opened i) :
    (m.restore looped lost).at? i = m.at? i := by
  cases looped with
  | true => rfl
  | false =>
      have all := all rfl
      rw [show m.restore false lost = lost.take m.length from rfl, at?_take]
      split
      · exact keeps i (by omega) open_
      · exact (at?_of_length_le (by omega)).symm

end Marks

open Marks (Keeps IsEnd)

theorem startMark_inj {a b : Nat} (a_ : a ≠ 0) (b_ : b ≠ 0) (same : startMark a = startMark b) : a = b := by
  unfold startMark at same
  omega

theorem startMark_ne_end (a b : Nat) : startMark a ≠ startMark b + 1 := by
  unfold startMark
  omega

/-! ## Cursors and states -/

/-- A cursor shows a state: groups that are closed are marked as the state has them, and the groups in `opened`
are marked where they began.  At most `top` groups are marked. -/
structure Shows (total top : Nat) (opened : List (Nat × Nat)) (c : Cursor) (st : State) : Prop where
  pos : c.pos = st.pos
  groups : st.groups.length = total
  marked : c.marks.length ≤ 2 * top
  closed : ∀ index, index ≠ 0 → index ∉ opened.map (·.1) → c.marks.span? index = st.group? index
  starts : ∀ g ∈ opened, c.marks.at? (startMark g.1) = some g.2

section Shows

variable {total top top' floor index start : Nat} {opened : List (Nat × Nat)} {c : Cursor} {st : State}

theorem Shows.moved (shows_ : Shows total top opened c st) {pos pos' : Nat} (same : pos = pos') :
    Shows total top opened (c.moved pos) (st.moved pos') :=
  { shows_ with pos := same }

theorem Shows.raise (le : top ≤ top') (shows_ : Shows total top opened c st) : Shows total top' opened c st :=
  { shows_ with marked := Nat.le_trans shows_.marked (Nat.mul_le_mul_left 2 le) }

theorem span?_congr {m m' : Marks} (start : m.at? (startMark index) = m'.at? (startMark index))
    (stop : m.at? (startMark index + 1) = m'.at? (startMark index + 1)) : m.span? index = m'.span? index := by
  unfold Marks.span?
  rw [start, stop]

theorem not_isEnd (closed : index ∉ opened.map (·.1)) (proper : ∀ g ∈ opened, g.1 ≠ 0) (some_ : index ≠ 0) :
    ¬ IsEnd opened (startMark index + 1) := by
  rintro ⟨g, member, same⟩
  exact closed (List.mem_map.2 ⟨g, member, (startMark_inj some_ (proper g member) (Nat.succ.inj same)).symm⟩)

theorem start_not_isEnd (opened : List (Nat × Nat)) (index : Nat) : ¬ IsEnd opened (startMark index) :=
  fun ⟨g, _, same⟩ => startMark_ne_end index g.1 same

/-- Taking back the marks of a failed way shows the same state. -/
theorem Shows.restore {looped : Bool} {lost : Marks} (proper : ∀ g ∈ opened, g.1 ≠ 0)
    (shows_ : Shows total top opened c st) (keeps : Keeps floor opened c.marks lost)
    (all : looped = false → top ≤ floor) :
    Shows total top opened { c with marks := c.marks.restore looped lost } st := by
  have all' : looped = false → c.marks.length ≤ 2 * floor := fun still =>
    Nat.le_trans shows_.marked (Nat.mul_le_mul_left 2 (all still))
  refine { shows_ with
    marked := Nat.le_trans (Marks.length_restore_le looped) shows_.marked
    closed := fun index some_ closed => ?_
    starts := fun g member => ?_ }
  · rw [← shows_.closed index some_ closed]
    exact span?_congr (Marks.at?_restore keeps all' (start_not_isEnd opened index))
      (Marks.at?_restore keeps all' (not_isEnd closed proper some_))
  · rw [← shows_.starts g member]
    exact Marks.at?_restore keeps all' (start_not_isEnd opened g.1)

/-- A group that begins is marked where it does. -/
theorem Shows.opens (shows_ : Shows total top opened c st) (some_ : index ≠ 0) (fresh : ∀ g ∈ opened, g.1 ≠ index)
    (proper : ∀ g ∈ opened, g.1 ≠ 0) (fits : index ≤ top') (le : top ≤ top') :
    Shows total top' ((index, st.pos) :: opened) (c.mark (startMark index)) st where
  pos := shows_.pos
  groups := shows_.groups
  marked := by
    have := shows_.marked
    simp only [Cursor.mark, Marks.length_put, startMark]
    omega
  closed := by
    intro other some_' closed
    simp only [List.map_cons, List.mem_cons, not_or] at closed
    rw [← shows_.closed other some_' closed.2]
    exact span?_congr (Marks.at?_put_ne fun same => closed.1 (startMark_inj some_ some_' same).symm)
      (Marks.at?_put_ne (startMark_ne_end index other))
  starts := by
    intro g member
    rcases List.mem_cons.1 member with rfl | member
    · rw [← shows_.pos]
      exact Marks.at?_put_self _ _ _
    · rw [← shows_.starts g member]
      exact Marks.at?_put_ne fun same => fresh g member (startMark_inj some_ (proper g member) same).symm

/-- A group that ends has its range. -/
theorem Shows.closes (shows_ : Shows total top ((index, start) :: opened) c st) (some_ : index ≠ 0)
    (fits : index ≤ top) (within : index ≤ total) :
    Shows total top opened (c.mark (startMark index + 1)) (st.setGroup index ⟨start, st.pos⟩) where
  pos := shows_.pos
  groups := (List.length_set ..).trans shows_.groups
  marked := by
    have := shows_.marked
    simp only [Cursor.mark, Marks.length_put, startMark]
    omega
  closed := by
    intro other some_' closed
    by_cases same : other = index
    · subst same
      have began := shows_.starts _ List.mem_cons_self
      have stays : (c.marks.put (startMark other + 1) c.pos).at? (startMark other) = some start :=
        (Marks.at?_put_ne (startMark_ne_end other other).symm).trans began
      have inside : other - 1 < st.groups.length := by
        rw [shows_.groups]
        omega
      rw [Cursor.mark, Marks.span?, stays, Marks.at?_put_self, State.group?, State.setGroup,
        List.getElem?_set_self inside, shows_.pos]
      rfl
    · have others : (st.setGroup index ⟨start, st.pos⟩).group? other = st.group? other := by
        simp only [State.group?, State.setGroup, List.getElem?_set_ne (show index - 1 ≠ other - 1 by omega)]
      rw [others, ← shows_.closed other some_' (by
        simp only [List.map_cons, List.mem_cons, not_or]
        exact ⟨same, closed⟩)]
      refine span?_congr (Marks.at?_put_ne (startMark_ne_end other index).symm) (Marks.at?_put_ne fun equal => ?_)
      exact same (startMark_inj some_ some_' (Nat.succ.inj equal)).symm
  starts := by
    intro g member
    rw [← shows_.starts g (List.mem_cons_of_mem _ member)]
    exact Marks.at?_put_ne (startMark_ne_end g.1 index).symm

theorem Shows.referred? (shows_ : Shows total top opened c st) (some_ : index ≠ 0)
    (closed : index ∉ opened.map (·.1)) : c.marks.referred? index = st.referred? index := by
  rw [Marks.referred?, State.referred?, shows_.closed index some_ closed]

end Shows

/-! ## What follows -/

/-- Both end in the same way, and `floor` groups are kept: what they end with is as `Final` says. -/
def Agree (Final : Cursor → State → Prop) (floor : Nat) (opened : List (Nat × Nat)) (m : Marks) :
    Except Marks Cursor → Option State → Prop
  | .ok c, some st => Keeps floor opened m c.marks ∧ Final c st
  | .error lost, none => Keeps floor opened m lost
  | _, _ => False

/-- From a cursor and a state that it shows, both go on in the same way. -/
def Mirrors (Final : Cursor → State → Prop) (total floor top : Nat) (opened : List (Nat × Nat)) (next : Next)
    (follow : Follow) : Prop :=
  ∀ c st, Shows total top opened c st → Agree Final floor opened c.marks (next c) (follow st)

section Mirrors

variable {Final : Cursor → State → Prop} {total floor floor' top top' : Nat} {opened : List (Nat × Nat)}
variable {next first second : Next} {follow first' second' : Follow}

theorem Agree.imp {Final' : Cursor → State → Prop} {opened' : List (Nat × Nat)} {m m' : Marks}
    {r : Except Marks Cursor} {s : Option State}
    (keeps : ∀ {lost}, Keeps floor' opened' m' lost → Keeps floor opened m lost)
    (final : ∀ {c st}, Final' c st → Final c st) (agree : Agree Final' floor' opened' m' r s) :
    Agree Final floor opened m r s := by
  cases r with
  | ok c =>
      cases s with
      | some st => exact ⟨keeps agree.1, final agree.2⟩
      | none => exact agree.elim
  | error lost =>
      cases s with
      | some st => exact agree.elim
      | none => exact keeps agree

theorem Agree.after {m m' : Marks} {r : Except Marks Cursor} {s : Option State} (keeps : Keeps floor opened m m')
    (agree : Agree Final floor opened m' r s) : Agree Final floor opened m r s :=
  agree.imp keeps.trans id

theorem Mirrors.lower (le : floor ≤ floor') (le' : top ≤ top')
    (mirrors : Mirrors Final total floor' top' opened next follow) : Mirrors Final total floor top opened next follow :=
  fun c st shows_ => (mirrors c st (shows_.raise le')).imp (Keeps.lower le) id

theorem mirrors_fail : Mirrors Final total floor top opened fail fun _ => none :=
  fun c _ _ => .refl floor opened c.marks

theorem mirrors_ok : Mirrors (Shows total top opened) total floor top opened .ok some :=
  fun c _ shows_ => ⟨.refl floor opened c.marks, shows_⟩

theorem Mirrors.skip (follows : Mirrors Final total floor top opened next follow) (n : Nat) :
    Mirrors Final total floor top opened (skip next n) fun st => follow (st.moved (st.pos + n)) := by
  intro c st shows_
  exact follows _ _ (shows_.moved (congrArg (· + n) shows_.pos))

/-- A choice of ways, the first of which fails: what it has changed is taken back. -/
theorem Mirrors.orElse {looped : Bool} (proper : ∀ g ∈ opened, g.1 ≠ 0) (all : looped = false → top ≤ floor')
    (le : floor ≤ floor') (one : Mirrors Final total floor' top opened first first')
    (other : Mirrors Final total floor top opened second second') :
    Mirrors Final total floor top opened (orElse looped first second) fun st => (first' st).or (second' st) := by
  intro c st shows_
  have agree := one c st shows_
  simp only [Regex.orElse]
  cases went : first c with
  | ok c' =>
      cases went' : first' st with
      | some st' =>
          rw [went, went'] at agree
          exact ⟨agree.1.lower le, agree.2⟩
      | none =>
          rw [went, went'] at agree
          exact agree.elim
  | error lost =>
      cases went' : first' st with
      | some st' =>
          rw [went, went'] at agree
          exact agree.elim
      | none =>
          rw [went, went'] at agree
          have restored := (agree.lower le).restore looped
          exact (other _ st (shows_.restore proper agree all)).after restored

/-- One part for good, and then what follows. -/
theorem Mirrors.bind (le : floor ≤ floor') (one : Mirrors (Shows total top' opened) total floor top opened first first')
    (follows : Mirrors Final total floor' top' opened next follow) :
    Mirrors Final total floor top opened (fun c => (first c).bind next) fun st => (first' st).bind follow := by
  intro c st shows_
  have agree := one c st shows_
  simp only
  cases went : first c with
  | ok c' =>
      cases went' : first' st with
      | some st' =>
          rw [went, went'] at agree
          exact ((follows c' st' agree.2).imp (Keeps.lower le) id).after agree.1
      | none =>
          rw [went, went'] at agree
          exact agree.elim
  | error lost =>
      cases went' : first' st with
      | some st' =>
          rw [went, went'] at agree
          exact agree.elim
      | none =>
          rw [went, went'] at agree
          exact agree

/-! ## Repetitions of one character -/

theorem tryDown_succ (f : Nat → Option State) (least extra : Nat) :
    tryDown f least (extra + 1) = (f (least + (extra + 1))).or (tryDown f least extra) := by
  rw [tryDown]
  cases f (least + (extra + 1)) <;> rfl

theorem tryUp_succ (f : Nat → Option State) (least extra : Nat) :
    tryUp f least (extra + 1) = (f least).or (tryUp f (least + 1) extra) := by
  rw [tryUp]
  cases f least <;> rfl

section Chars

variable {looped : Bool} (proper : ∀ g ∈ opened, g.1 ≠ 0) (all : looped = false → top ≤ floor)
variable (follows : Mirrors Final total floor top opened next follow)

include proper all follows

theorem mirrors_last (n : Nat) : Mirrors Final total floor top opened (orElse looped (skip next n) fail)
    fun st => follow (st.moved (st.pos + n)) := by
  have mirrors := (follows.skip n).orElse proper all (Nat.le_refl floor) mirrors_fail
  simpa only [Option.or_none] using mirrors

theorem trackDown_mirrors (least extra : Nat) :
    Mirrors Final total floor top opened (trackDown looped next least extra)
      fun st => tryDown (fun n => follow (st.moved (st.pos + n))) least extra := by
  induction extra with
  | zero => exact mirrors_last proper all follows least
  | succ extra ih =>
      simp only [tryDown_succ]
      exact (follows.skip _).orElse proper all (Nat.le_refl floor) ih

theorem trackUp_mirrors (least extra : Nat) :
    Mirrors Final total floor top opened (trackUp looped next least extra)
      fun st => tryUp (fun n => follow (st.moved (st.pos + n))) least extra := by
  induction extra generalizing least with
  | zero => exact mirrors_last proper all follows least
  | succ extra ih =>
      simp only [tryUp_succ]
      exact (follows.skip _).orElse proper all (Nat.le_refl floor) (ih (least + 1))

theorem trackChars_mirrors (text : Array Char) (p : Char → Bool) (greed : Greed) (least : Nat) (most : Option Nat) :
    Mirrors Final total floor top opened (trackChars text p greed least most looped next)
      (runChars text p greed least most follow) := by
  intro c st shows_
  simp only [trackChars, runChars, shows_.pos]
  split
  · exact mirrors_fail c st shows_
  · cases greed with
    | greedy => exact trackDown_mirrors proper all follows _ _ c st shows_
    | reluctant => exact trackUp_mirrors proper all follows _ _ c st shows_
    | possessive => exact follows.skip _ c st shows_

end Chars

/-! ## Other repetitions -/

section Rounds

variable {body : Next → Next} {body' : Follow → Follow}

theorem loop_greedy_succ {least : Nat} {most : Option Nat} {fuel count : Nat} {last : Option Nat} {st : State}
    (done : ¬ count < least) :
    loop body' .greedy least most follow (fuel + 1) count last st =
      (if mayRepeat most count && last != some st.pos then
        body' (loop body' .greedy least most follow fuel (count + 1) (some st.pos)) st else none).or (follow st) := by
  simp only [loop, if_neg done]
  cases h : (if mayRepeat most count && last != some st.pos then
    body' (loop body' .greedy least most follow fuel (count + 1) (some st.pos)) st else none) <;> rfl

theorem loop_reluctant_succ {least : Nat} {most : Option Nat} {fuel count : Nat} {last : Option Nat} {st : State}
    (done : ¬ count < least) :
    loop body' .reluctant least most follow (fuel + 1) count last st =
      (follow st).or (if mayRepeat most count && last != some st.pos then
        body' (loop body' .reluctant least most follow fuel (count + 1) (some st.pos)) st else none) := by
  simp only [loop, if_neg done]
  cases follow st <;> rfl

/-- The rounds of a repetition, each inside the repetition, and what follows outside of it. -/
theorem rounds_mirrors (proper : ∀ g ∈ opened, g.1 ≠ 0)
    (round : ∀ {next follow}, Mirrors Final total floor top opened next follow →
      Mirrors Final total floor top opened (body next) (body' follow))
    {greed : Greed} (soft : greed ≠ .possessive) {outer : Bool} (le : floor ≤ floor')
    (all : outer = false → top ≤ floor') (follows : Mirrors Final total floor' top opened next follow)
    (least : Nat) (most : Option Nat) (fuel count : Nat) (last : Option Nat) :
    Mirrors Final total floor top opened (rounds body (greed == .reluctant) outer least most next fuel count last)
      (loop body' greed least most follow fuel count last) := by
  induction fuel generalizing count last with
  | zero => exact follows.lower le (Nat.le_refl top)
  | succ fuel ih =>
      have again : Mirrors Final total floor top opened
          (fun c => if mayRepeat most count && last != some c.pos then
            body (rounds body (greed == .reluctant) outer least most next fuel (count + 1) (some c.pos)) c else fail c)
          (fun st => if mayRepeat most count && last != some st.pos then
            body' (loop body' greed least most follow fuel (count + 1) (some st.pos)) st else none) := by
        intro c st shows_
        simp only [shows_.pos]
        split
        · exact round (ih (count + 1) _) c st shows_
        · exact mirrors_fail c st shows_
      intro c st shows_
      by_cases required : count < least
      · simp only [rounds, loop, if_pos required]
        exact round (ih (count + 1) last) c st shows_
      · simp only [rounds, if_neg required]
        cases greed with
        | greedy =>
            rw [loop_greedy_succ required]
            exact again.orElse proper (by simp) (Nat.le_refl floor) (follows.lower le (Nat.le_refl top)) c st shows_
        | reluctant =>
            rw [loop_reluctant_succ required]
            exact follows.orElse proper all le again c st shows_
        | possessive => exact absurd rfl soft

theorem settled_mirrors {round : Next}
    (mirrors : Mirrors (Shows total top opened) total floor top opened round (body' some)) (n : Nat) :
    Mirrors (Shows total top opened) total floor top opened (settled round n) (settle body' n) := by
  induction n with
  | zero => exact mirrors_ok
  | succ n ih => exact mirrors.bind (Nat.le_refl floor) ih

theorem exhausted_mirrors {round : Next}
    (mirrors : Mirrors (Shows total top opened) total floor top opened round (body' some))
    (follows : Mirrors Final total floor top opened next follow) {least : Nat} (most : Option Nat) (fuel : Nat)
    {count : Nat} (enough : least ≤ count) (last : Option Nat) :
    Mirrors Final total floor top opened (fun c => next (exhausted round most fuel count last c))
      (loop body' .possessive least most follow fuel count last) := by
  induction fuel generalizing count last with
  | zero => exact follows
  | succ fuel ih =>
      intro c st shows_
      have agree := mirrors c st shows_
      simp only [exhausted, loop, if_neg (Nat.not_lt.2 enough), shows_.pos]
      split
      · cases went : round c with
        | ok c' =>
            cases went' : body' some st with
            | some st' =>
                rw [went, went'] at agree
                exact (ih (Nat.le_succ_of_le enough) (some st.pos) c' st' agree.2).after agree.1
            | none =>
                rw [went, went'] at agree
                exact agree.elim
        | error lost =>
            cases went' : body' some st with
            | some st' =>
                rw [went, went'] at agree
                exact agree.elim
            | none => exact follows c st shows_
      · exact follows c st shows_

end Rounds

/-- What follows a look, which comes back to where it began. -/
theorem look_agree {looped negated : Bool} {c : Cursor} {st : State} {found : Except Marks Cursor}
    {found' : Option State} (proper : ∀ g ∈ opened, g.1 ≠ 0) (all : looped = false → top ≤ floor)
    (le : floor ≤ floor') (le' : top ≤ top') (shows_ : Shows total top opened c st)
    (follows : Mirrors Final total floor' top' opened next follow) :
    Agree (Shows total top' opened) floor opened c.marks found found' →
    Agree Final floor opened c.marks (look negated looped next c found)
      (match found' with
        | some st' => if negated then none else follow (st'.moved st.pos)
        | none => if negated then follow st else none) := by
  intro agree
  have follows' := follows.lower le (Nat.le_refl top')
  cases found with
  | ok c' =>
      cases found' with
      | some st' =>
          obtain ⟨kept, shows'⟩ := agree
          cases negated with
          | true => exact kept
          | false => exact (follows' _ _ (shows'.moved shows_.pos)).after kept
      | none => exact agree.elim
  | error lost =>
      cases found' with
      | some st' => exact agree.elim
      | none =>
          cases negated with
          | true =>
              exact (follows' _ st ((shows_.restore proper agree all).raise le')).after (agree.restore looped)
          | false => exact agree

end Mirrors

/-! ## Steady patterns -/

/-- How many groups have begun after a pattern, if it is steady where `begun` have begun before it and those in
`opened` are still open. -/
def Pattern.begunAfter : Bool → List Nat → Nat → Pattern → Option Nat
  | _, _, begun, .empty => some begun
  | _, _, begun, .char _ => some begun
  | _, _, begun, .anchor _ => some begun
  | looped, opened, begun, .seq a b => (a.begunAfter looped opened begun).bind (b.begunAfter looped opened ·)
  | looped, opened, begun, .alt a b => (a.begunAfter looped opened begun).bind (b.begunAfter looped opened ·)
  | looped, opened, begun, .group index body =>
    if index = begun + 1 then body.begunAfter looped (index :: opened) (begun + 1) else none
  | _, opened, begun, .backref index _ => if index = 0 ∨ index ∈ opened then none else some begun
  | _, _, begun, .repeatChar .. => some begun
  | looped, opened, begun, .repeatGroup .possessive _ _ body =>
    (body.begunAfter looped opened begun).filter fun after => looped || after = begun
  | _, opened, begun, .repeatGroup _ _ _ body => body.begunAfter true opened begun
  | looped, opened, begun, .atomic body => body.begunAfter looped opened begun
  | looped, opened, begun, .ahead _ body => body.begunAfter looped opened begun
  | looped, opened, begun, .behind _ _ body => body.begunAfter looped opened begun
  | looped, opened, begun, .ifGroup index yes no =>
    if index = 0 ∨ index ∈ opened then none
    else (yes.begunAfter looped opened begun).bind (no.begunAfter looped opened ·)

theorem begun_le {p : Pattern} {looped : Bool} {opened : List Nat} {begun after : Nat}
    (steady : p.begunAfter looped opened begun = some after) : begun ≤ after := by
  induction p generalizing looped opened begun after with
  | empty | char | anchor | repeatChar => exact Nat.le_of_eq (Option.some.inj steady)
  | seq a b ihA ihB =>
      obtain ⟨mid, first, second⟩ := Option.bind_eq_some_iff.1 steady
      exact Nat.le_trans (ihA first) (ihB second)
  | alt a b ihA ihB =>
      obtain ⟨mid, first, second⟩ := Option.bind_eq_some_iff.1 steady
      exact Nat.le_trans (ihA first) (ihB second)
  | group index body ih =>
      simp only [Pattern.begunAfter] at steady
      split at steady
      · exact Nat.le_of_succ_le (ih steady)
      · simp at steady
  | backref index f =>
      simp only [Pattern.begunAfter] at steady
      split at steady
      · simp at steady
      · exact Nat.le_of_eq (Option.some.inj steady)
  | repeatGroup greed least most body ih =>
      cases greed with
      | possessive => exact ih (Option.filter_eq_some_iff.1 steady).1
      | greedy => exact ih steady
      | reluctant => exact ih steady
  | atomic body ih | ahead negated body ih | behind negated width body ih => exact ih steady
  | ifGroup index yes no ihYes ihNo =>
      simp only [Pattern.begunAfter] at steady
      split at steady
      · simp at steady
      · obtain ⟨mid, first, second⟩ := Option.bind_eq_some_iff.1 steady
        exact Nat.le_trans (ihYes first) (ihNo second)

/-- A bound that is fixed inside a repetition, and outside moves along with the groups. -/
def stageAt (looped : Bool) (bound begun : Nat) : Nat := if looped then bound else begun

theorem stageAt_mono (looped : Bool) (bound : Nat) {a b : Nat} (le : a ≤ b) :
    stageAt looped bound a ≤ stageAt looped bound b := by
  cases looped with
  | true => exact Nat.le_refl bound
  | false => exact le

theorem stageAt_still (floor top begun : Nat) {looped : Bool} (still : looped = false) :
    stageAt looped top begun ≤ stageAt looped floor begun := by
  subst still
  exact Nat.le_refl begun

theorem stageAt_le {looped : Bool} {bound begun : Nat} (inside : looped = true → bound ≤ begun) :
    stageAt looped bound begun ≤ begun := by
  cases looped with
  | true => exact inside rfl
  | false => exact Nat.le_refl begun

theorem le_stageAt {looped : Bool} {bound begun : Nat} (inside : looped = true → begun ≤ bound) :
    begun ≤ stageAt looped bound begun := by
  cases looped with
  | true => exact inside rfl
  | false => exact Nat.le_refl begun

/-- Where a part stands: the groups in `opened` have begun before it, and inside a repetition its own are among those
from `floor` up to `top`. -/
structure Placed (total floor top : Nat) (looped : Bool) (opened : List (Nat × Nat)) (begun after : Nat) : Prop where
  under : ∀ g ∈ opened, g.1 ≠ 0 ∧ g.1 ≤ begun
  stage : looped = true → floor ≤ begun ∧ after ≤ top
  within : after ≤ total

namespace Placed

variable {total floor top begun mid after : Nat} {looped : Bool} {opened : List (Nat × Nat)}

theorem proper (placed : Placed total floor top looped opened begun after) : ∀ g ∈ opened, g.1 ≠ 0 :=
  fun g member => (placed.under g member).1

theorem first (placed : Placed total floor top looped opened begun after) (upper : mid ≤ after) :
    Placed total floor top looped opened begun mid where
  under := placed.under
  stage inside := ⟨(placed.stage inside).1, Nat.le_trans upper (placed.stage inside).2⟩
  within := Nat.le_trans upper placed.within

theorem second (placed : Placed total floor top looped opened begun after) (lower : begun ≤ mid) :
    Placed total floor top looped opened mid after where
  under g member := ⟨(placed.under g member).1, Nat.le_trans (placed.under g member).2 lower⟩
  stage inside := ⟨Nat.le_trans (placed.stage inside).1 lower, (placed.stage inside).2⟩
  within := placed.within

theorem opens (placed : Placed total floor top looped opened begun after) (start : Nat) :
    Placed total floor top looped ((begun + 1, start) :: opened) (begun + 1) after where
  under := List.forall_mem_cons.2 ⟨⟨Nat.succ_ne_zero begun, Nat.le_refl _⟩,
    fun g member => ⟨(placed.under g member).1, Nat.le_succ_of_le (placed.under g member).2⟩⟩
  stage inside := ⟨Nat.le_succ_of_le (placed.stage inside).1, (placed.stage inside).2⟩
  within := placed.within

/-- Inside a repetition only what lies outside of it is kept. -/
theorem repeats (placed : Placed total floor top looped opened begun after) :
    Placed total (stageAt looped floor begun) (stageAt looped top after) true opened begun after where
  under := placed.under
  stage _ := ⟨stageAt_le fun inside => (placed.stage inside).1, le_stageAt fun inside => (placed.stage inside).2⟩
  within := placed.within

end Placed

/-- A group goes the same way if its body does with the group open.  Its start is marked above the floor, so nothing
below that changes. -/
theorem group_mirrors {Final : Cursor → State → Prop} {total floor top begun after : Nat} {looped : Bool}
    {opened : List (Nat × Nat)} {next : Next} {follow : Follow} {body : Next → Next} {body' : Follow → Follow}
    (placed : Placed total floor top looped opened begun after) (lower : begun + 1 ≤ after)
    (follows : Mirrors Final total (stageAt looped floor after) (stageAt looped top after) opened next follow)
    (inside : ∀ start next' follow', Mirrors Final total (stageAt looped floor after) (stageAt looped top after)
        ((begun + 1, start) :: opened) next' follow' →
      Mirrors Final total (stageAt looped floor (begun + 1)) (stageAt looped top (begun + 1))
        ((begun + 1, start) :: opened) (body next') (body' follow')) :
    Mirrors Final total (stageAt looped floor begun) (stageAt looped top begun) opened
      (fun c => body (fun c' => next (c'.mark (startMark (begun + 1) + 1))) (c.mark (startMark (begun + 1))))
      (fun st => body' (fun st' => follow (st'.setGroup (begun + 1) ⟨st.pos, st'.pos⟩)) st) := by
  intro c st shows_
  have fresh : ∀ g ∈ opened, g.1 ≠ begun + 1 := fun g member same => by
    have := (placed.under g member).2
    omega
  have above : 2 * stageAt looped floor begun ≤ startMark (begun + 1) :=
    Nat.mul_le_mul_left 2 (stageAt_le fun looped_ => (placed.stage looped_).1)
  have fits : begun + 1 ≤ stageAt looped top (begun + 1) :=
    le_stageAt fun looped_ => Nat.le_trans lower (placed.stage looped_).2
  have ends : Mirrors Final total (stageAt looped floor after) (stageAt looped top after)
      ((begun + 1, st.pos) :: opened) (fun c' => next (c'.mark (startMark (begun + 1) + 1)))
      (fun st' => follow (st'.setGroup (begun + 1) ⟨st.pos, st'.pos⟩)) := by
    intro c' st' shows'
    have closed := shows'.closes (Nat.succ_ne_zero begun) (Nat.le_trans fits (stageAt_mono looped top lower))
      (Nat.le_trans lower placed.within)
    exact ((follows _ _ closed).imp Keeps.opens id).after (Keeps.put_end List.mem_cons_self)
  have began := shows_.opens (Nat.succ_ne_zero begun) fresh placed.proper fits
    (stageAt_mono looped top (Nat.le_succ begun))
  refine (inside st.pos _ _ ends _ st began).imp (fun keeps => ?_) id
  exact (Keeps.put_above above).trans ((keeps.lower (stageAt_mono looped floor (Nat.le_succ begun))).closes above)

/-- **A steady pattern goes the same way with marks as with a state**, if what follows does. -/
theorem track_mirrors {text : Array Char} {Final : Cursor → State → Prop} {total : Nat} {p : Pattern} {looped : Bool}
    {opened : List (Nat × Nat)} {begun after : Nat}
    (steady : p.begunAfter looped (opened.map (·.1)) begun = some after) {floor top : Nat}
    (placed : Placed total floor top looped opened begun after) {next : Next} {follow : Follow}
    (follows : Mirrors Final total (stageAt looped floor after) (stageAt looped top after) opened next follow) :
    Mirrors Final total (stageAt looped floor begun) (stageAt looped top begun) opened (p.track text looped next)
      (p.run text follow) := by
  induction p generalizing Final looped opened begun after floor top next follow with
  | empty =>
      obtain rfl := Option.some.inj steady
      exact follows
  | char t =>
      obtain rfl := Option.some.inj steady
      intro c st shows_
      simp only [Pattern.track, Pattern.run, shows_.pos]
      split
      · exact follows _ _ (shows_.moved rfl)
      · exact mirrors_fail c st shows_
  | anchor a =>
      obtain rfl := Option.some.inj steady
      intro c st shows_
      simp only [Pattern.track, Pattern.run, shows_.pos]
      split
      · exact follows c st shows_
      · exact mirrors_fail c st shows_
  | seq a b ihA ihB =>
      obtain ⟨mid, first, second⟩ := Option.bind_eq_some_iff.1 steady
      exact ihA first (placed.first (begun_le second)) (ihB second (placed.second (begun_le first)) follows)
  | alt a b ihA ihB =>
      obtain ⟨mid, first, second⟩ := Option.bind_eq_some_iff.1 steady
      have lower := begun_le first
      have upper := begun_le second
      have one := ihA first (placed.first upper)
        (follows.lower (stageAt_mono looped floor upper) (stageAt_mono looped top upper))
      have other := (ihB second (placed.second lower) follows).lower (stageAt_mono looped floor lower)
        (stageAt_mono looped top lower)
      have either := one.orElse placed.proper (stageAt_still floor top _) (Nat.le_refl _)
        (other.orElse placed.proper (stageAt_still floor top _) (Nat.le_refl _) mirrors_fail)
      intro c st shows_
      have agree := either c st shows_
      simp only [Option.or_none] at agree
      have same : (Pattern.alt a b).run text follow st = (a.run text follow st).or (b.run text follow st) := by
        simp only [Pattern.run]
        cases a.run text follow st <;> rfl
      rwa [same]
  | group index body ih =>
      simp only [Pattern.begunAfter] at steady
      split at steady
      · rename_i numbered
        subst numbered
        refine group_mirrors placed (begun_le steady) follows fun start next' follow' inner => ?_
        have steady' : body.begunAfter looped (((begun + 1, start) :: opened).map (·.1)) (begun + 1) = some after :=
          steady
        exact ih steady' (placed.opens start) inner
      · simp at steady
  | backref index f =>
      simp only [Pattern.begunAfter] at steady
      split at steady
      · simp at steady
      · rename_i closed
        obtain rfl := Option.some.inj steady
        simp only [not_or] at closed
        intro c st shows_
        simp only [Pattern.track, Pattern.run, shows_.referred? closed.1 closed.2, shows_.pos]
        cases st.referred? index with
        | none => exact mirrors_fail c st shows_
        | some s =>
            simp only
            split
            · exact follows _ _ (shows_.moved rfl)
            · exact mirrors_fail c st shows_
  | repeatChar greed least most t =>
      obtain rfl := Option.some.inj steady
      exact trackChars_mirrors placed.proper (stageAt_still floor top _) follows text t.holds greed least most
  | repeatGroup greed least most body ih =>
      -- inside the repetition, what lies between its first group and its last may change
      have soft : ∀ {greed}, greed ≠ .possessive → body.begunAfter true (opened.map (·.1)) begun = some after →
          Mirrors Final total (stageAt looped floor begun) (stageAt looped top begun) opened
            (fun c => rounds (body.track text true) (greed == .reluctant) looped least most next
              (loopFuel text least c.pos) 0 none c)
            (fun st => loop (body.run text) greed least most follow (loopFuel text least st.pos) 0 none st) := by
        intro greed soft steady c st shows_
        have lower := begun_le steady
        simp only [shows_.pos]
        exact rounds_mirrors placed.proper (ih steady placed.repeats) soft (stageAt_mono looped floor lower)
          (stageAt_still floor top _) follows least most _ 0 none c st (shows_.raise (stageAt_mono looped top lower))
      cases greed with
      | possessive =>
          obtain ⟨steady, free⟩ := Option.filter_eq_some_iff.1 steady
          have still : ∀ bound, stageAt looped bound after = stageAt looped bound begun := by
            intro bound
            cases looped with
            | true => rfl
            | false => simpa [stageAt] using free
          rw [still, still] at follows
          have round := ih steady placed mirrors_ok
          rw [still] at round
          refine (settled_mirrors round least).bind (Nat.le_refl _) fun c st shows_ => ?_
          rw [shows_.pos]
          exact exhausted_mirrors round follows most _ (Nat.le_refl least) none c st shows_
      | greedy => exact soft (by decide) steady
      | reluctant => exact soft (by decide) steady
  | atomic body ih =>
      exact (ih steady placed mirrors_ok).bind (stageAt_mono looped floor (begun_le steady)) follows
  | ahead negated body ih =>
      have lower := begun_le steady
      intro c st shows_
      exact look_agree placed.proper (stageAt_still floor top _) (stageAt_mono looped floor lower)
        (stageAt_mono looped top lower) shows_ follows (ih steady placed mirrors_ok c st shows_)
  | behind negated width body ih =>
      have lower := begun_le steady
      intro c st shows_
      refine look_agree placed.proper (stageAt_still floor top _) (stageAt_mono looped floor lower)
        (stageAt_mono looped top lower) shows_ follows ?_
      simp only [shows_.pos]
      split
      · exact ih steady placed mirrors_ok _ _ (shows_.moved rfl)
      · exact mirrors_fail c st shows_
  | ifGroup index yes no ihYes ihNo =>
      simp only [Pattern.begunAfter] at steady
      split at steady
      · simp at steady
      · rename_i closed
        simp only [not_or] at closed
        obtain ⟨mid, first, second⟩ := Option.bind_eq_some_iff.1 steady
        have lower := begun_le first
        have upper := begun_le second
        have one := ihYes first (placed.first upper)
          (follows.lower (stageAt_mono looped floor upper) (stageAt_mono looped top upper))
        have other := (ihNo second (placed.second lower) follows).lower (stageAt_mono looped floor lower)
          (stageAt_mono looped top lower)
        intro c st shows_
        simp only [Pattern.track, Pattern.run, shows_.referred? closed.1 closed.2]
        split
        · exact one c st shows_
        · exact other c st shows_

/-! ## Matches -/

/-- Whether marks and states go the same way in every text. -/
def isSteady (r : Regex) : Bool := (r.pattern.begunAfter false [] 0).any (· ≤ r.groups)

theorem Shows.groups_eq {total top : Nat} {c : Cursor} {st : State} (shows_ : Shows total top [] c st) :
    (List.range total).map (fun i => c.marks.span? (i + 1)) = st.groups := by
  refine List.ext_getElem ?_ fun i inside inside' => ?_
  · rw [List.length_map, List.length_range, shows_.groups]
  · rw [List.getElem_map, List.getElem_range, shows_.closed (i + 1) (Nat.succ_ne_zero i) (by simp), State.group?,
      Nat.add_sub_cancel, List.getElem?_eq_getElem inside']
    rfl

theorem start_shows (r : Regex) (start : Nat) : Shows r.groups 0 [] ⟨start, []⟩ (startState r start) where
  pos := rfl
  groups := List.length_replicate ..
  marked := Nat.le_refl 0
  closed := by
    intro index _ _
    simp only [Marks.span?, Marks.at?, List.getElem?_nil, Option.getD_none, State.group?, startState,
      List.getElem?_replicate]
    split <;> rfl
  starts := by simp

/-- **What a steady pattern matches is what it matches by running.** -/
theorem matchAt?_eq_runAt? {r : Regex} (steady : isSteady r = true) (text : Array Char) (start : Nat) (moving : Bool) :
    matchAt? r text start moving = runAt? r text start moving := by
  obtain ⟨after, numbered, within⟩ := (Option.any_eq_true _ _).1 steady
  have ends : Mirrors (Shows r.groups after []) r.groups after after []
      (fun c => if moving && c.pos == start then fail c else .ok c) (finish start moving) := by
    intro c st shows_
    simp only [finish, shows_.pos]
    split
    · exact mirrors_fail c st shows_
    · exact mirrors_ok c st shows_
  have placed : Placed r.groups 0 0 false [] 0 after := ⟨by simp, by simp, of_decide_eq_true within⟩
  have agree := @track_mirrors text _ r.groups r.pattern false [] 0 after numbered 0 0 placed _ _ ends _ _
    (start_shows r start)
  simp only [matchAt?, runAt?]
  revert agree
  split
  · rename_i c went
    rw [went]
    cases r.pattern.run text (finish start moving) (startState r start) with
    | some st =>
        rintro ⟨-, shows_⟩
        rw [Option.map_some, shows_.groups_eq, shows_.pos]
    | none => exact False.elim
  · rename_i lost went
    rw [went]
    cases r.pattern.run text (finish start moving) (startState r start) with
    | some st => exact False.elim
    | none => exact fun _ => rfl

end Graft.Regex
