/-
# Graft.Proofs.Regex.Matches -- what is found in a text

A match that is found begins where it was looked for and lies in the text.  The matches of a text follow each other
(`findAll_chain`), and each is one that the pattern has at its start (`matchAt?_of_mem_findAll`).  What a steady
pattern matches goes along a way of the pattern (`matchAt?_way`), and no group of it is crossed
(`isCrossed_of_steady`).
-/
import Graft.Proofs.Regex.Tracking
import Graft.Proofs.Regex.Way

namespace Graft.Regex

set_option autoImplicit false

theorem matchAt?_onward {r : Regex} {text : Array Char} {start : Nat} {moving : Bool} {m : Match}
    (found : matchAt? r text start moving = some m) : m.span.start = start ∧ Onward text start m.span.stop := by
  simp only [matchAt?] at found
  split at found
  · rename_i c ran
    obtain rfl := Option.some.inj found
    obtain ⟨c', onward, ended⟩ := track_reaches ran
    simp only at ended
    split at ended
    · exact absurd ended not_fail
    · obtain rfl := Except.ok.inj ended
      exact ⟨rfl, onward⟩
  · simp at found

/-- A match that had to move on has done so. -/
theorem matchAt?_moving {r : Regex} {text : Array Char} {start : Nat} {m : Match}
    (found : matchAt? r text start true = some m) : m.span.stop ≠ start := by
  simp only [matchAt?] at found
  split at found
  · rename_i c ran
    obtain rfl := Option.some.inj found
    obtain ⟨c', -, ended⟩ := track_reaches ran
    simp only at ended
    split at ended
    · exact absurd ended not_fail
    · rename_i moved
      obtain rfl := Except.ok.inj ended
      simpa using moved
  · simp at found

theorem finish_some {start : Nat} {moving : Bool} {st st' : State} (ended : finish start moving st = some st') :
    st = st' := by
  unfold finish at ended
  split at ended
  · simp at ended
  · exact Option.some.inj ended

theorem matchAt?_way {r : Regex} (steady : isSteady r = true) {text : Array Char} {start : Nat} {moving : Bool}
    {m : Match} (found : matchAt? r text start moving = some m) :
    m.span.start = start ∧ Way text r.pattern (startState r start) ⟨m.span.stop, m.groups⟩ := by
  rw [matchAt?_eq_runAt? steady] at found
  obtain ⟨st, ran, rfl⟩ := Option.map_eq_some_iff.1 found
  obtain ⟨st', way, ended⟩ := run_way ran
  obtain rfl := finish_some ended
  exact ⟨rfl, way⟩

/-- A way leaves no group behind that ends before it starts. -/
theorem Way.ordered {text : Array Char} {p : Pattern} {st st' : State} (way : Way text p st st')
    (ordered : ∀ s, some s ∈ st.groups → s.start ≤ s.stop) : ∀ s, some s ∈ st'.groups → s.start ≤ s.stop := by
  induction way with
  | empty | char | anchor | backref | chars | done | notAhead | notBehind => exact ordered
  | seq _ _ first second => exact second (first ordered)
  | left _ ih | right _ ih | atomic _ ih | ahead _ ih | behind _ ih | ifYes _ ih | ifNo _ ih => exact ih ordered
  | round _ _ first rest => exact rest (first ordered)
  | group way ih =>
      intro s member
      rcases List.mem_or_eq_of_mem_set member with before | same
      · exact ih ordered s before
      · obtain rfl := Option.some.inj same
        exact way.pos_le

/-- **No match of a steady pattern is crossed.** -/
theorem isCrossed_of_steady {r : Regex} (steady : isSteady r = true) {text : Array Char} {start : Nat} {moving : Bool}
    {m : Match} (found : matchAt? r text start moving = some m) : m.isCrossed = false := by
  have ordered := (matchAt?_way steady found).2.ordered fun s member => by simp [startState] at member
  refine List.any_eq_false.2 fun g member crossed => ?_
  cases g with
  | none => simp at crossed
  | some s => exact Nat.lt_irrefl _ (Nat.lt_of_lt_of_le (of_decide_eq_true crossed) (ordered s member))

/-- What repeats a range exactly has the same characters. -/
theorem repeatsSpan_exact_iff {text : Array Char} {s : Span} {pos : Nat} :
    repeatsSpan text .exact s pos = true ↔
      ∀ k < s.stop - s.start, ∃ c, text[s.start + k]? = some c ∧ text[pos + k]? = some c := by
  simp only [repeatsSpan, List.all_eq_true, List.mem_range]
  refine forall_congr' fun k => imp_congr_right fun _ => ?_
  split
  · rename_i a b first second
    simp only [first, second, Folding.lower, beq_iff_eq, Char.toNat_inj, Option.some.injEq, exists_eq_left']
    exact eq_comm
  · rename_i missing
    simp only [Bool.false_eq_true, false_iff]
    rintro ⟨c, first, second⟩
    exact missing c c first second

/-- A match passes the lead of the pattern. -/
theorem matchAt?_lead {r : Regex} (steady : isSteady r = true) {text : Array Char} {start : Nat} {moving : Bool}
    {m : Match} (found : matchAt? r text start moving = some m) : r.pattern.lead.Fits text start m.span.stop :=
  (matchAt?_way steady found).2.lead

theorem searchFrom_some {r : Regex} {text : Array Char} {count start : Nat} {moving : Bool} {m : Match}
    (found : searchFrom r text count start moving = some m) :
    start ≤ m.span.start ∧ m.span.start < start + count ∧
      ∃ moving', matchAt? r text m.span.start moving' = some m := by
  induction count generalizing start moving with
  | zero => simp [searchFrom] at found
  | succ count ih =>
      simp only [searchFrom] at found
      split at found
      · rename_i m' here
        obtain rfl := Option.some.inj found
        have begun := (matchAt?_onward here).1
        exact ⟨by omega, by omega, moving, by rwa [begun]⟩
      · obtain ⟨from_, before, at_⟩ := ih found
        exact ⟨by omega, by omega, at_⟩

theorem searchFrom_order {r : Regex} {text : Array Char} {count start : Nat} {moving : Bool} {m : Match}
    (found : searchFrom r text count start moving = some m) :
    start ≤ m.span.start ∧ m.span.start ≤ m.span.stop := by
  obtain ⟨from_, -, moving', at_⟩ := searchFrom_some found
  exact ⟨from_, (matchAt?_onward at_).2.order⟩

theorem matchesFrom_start {r : Regex} {text : Array Char} {fuel start : Nat} {moving : Bool} {m : Match}
    (member : m ∈ matchesFrom r text fuel start moving) :
    start ≤ m.span.start ∧ m.span.start ≤ text.size ∧
      ∃ moving', matchAt? r text m.span.start moving' = some m := by
  induction fuel generalizing start moving with
  | zero => simp [matchesFrom] at member
  | succ fuel ih =>
      simp only [matchesFrom] at member
      split at member
      · rename_i first found
        rcases List.mem_cons.1 member with rfl | later
        · obtain ⟨from_, before, at_⟩ := searchFrom_some found
          exact ⟨from_, by omega, at_⟩
        · obtain ⟨from_, rest⟩ := ih later
          have := searchFrom_order found
          exact ⟨by omega, rest⟩
      · simp at member

theorem matchesFrom_chain (r : Regex) (text : Array Char) (fuel start : Nat) (moving : Bool) :
    (matchesFrom r text fuel start moving).Pairwise fun m m' => m.span.stop ≤ m'.span.start := by
  induction fuel generalizing start moving with
  | zero => exact List.Pairwise.nil
  | succ fuel ih =>
      simp only [matchesFrom]
      split
      · exact List.pairwise_cons.2 ⟨fun m' later => (matchesFrom_start later).1, ih _ _⟩
      · exact List.Pairwise.nil

theorem matchAt?_of_mem_findAll {r : Regex} {t : Text} {m : Match} (member : m ∈ findAll r t) :
    ∃ moving, matchAt? r t.toArray m.span.start moving = some m :=
  (matchesFrom_start member).2.2

theorem matchAt?_of_search {r : Regex} {t : Text} {m : Match} (found : search r t = some m) :
    ∃ moving, matchAt? r t.toArray m.span.start moving = some m :=
  (searchFrom_some found).2.2

theorem search_of_find {r : Regex} {t : Text} {m? : Option Match} (found : find r t = .ok m?) : search r t = m? := by
  unfold find at found
  split at found
  · rename_i none_
    exact none_.trans (Except.ok.inj found)
  · rename_i m searched
    split at found
    · simp at found
    · exact searched.trans (Except.ok.inj found)

/-- A search for a steady pattern has no fault. -/
theorem find_of_steady {r : Regex} (steady : isSteady r = true) (t : Text) : find r t = .ok (search r t) := by
  unfold find
  cases found : search r t with
  | none => rfl
  | some m =>
      obtain ⟨moving, at_⟩ := matchAt?_of_search found
      simp only [isCrossed_of_steady steady at_, Bool.false_eq_true, if_false]

/-- A search does not stop short of a place where there is a match. -/
theorem searchFrom_isSome {r : Regex} {text : Array Char} {p : Nat}
    (here : (matchAt? r text p false).isSome = true) {count start : Nat} (from_ : start ≤ p)
    (before : p < start + count) : (searchFrom r text count start false).isSome = true := by
  induction count generalizing start with
  | zero => omega
  | succ count ih =>
      simp only [searchFrom]
      split
      · rfl
      · rename_i none_
        have later : start ≠ p := by
          rintro rfl
          rw [none_] at here
          simp at here
        exact ih (by omega) (by omega)

/-- There is no match in front of the one that a search finds. -/
theorem searchFrom_first {r : Regex} {text : Array Char} {count start : Nat} {m : Match}
    (found : searchFrom r text count start false = some m) {p : Nat} (from_ : start ≤ p) (before : p < m.span.start) :
    matchAt? r text p false = none := by
  induction count generalizing start with
  | zero => simp [searchFrom] at found
  | succ count ih =>
      simp only [searchFrom] at found
      split at found
      · rename_i m' here
        obtain rfl := Option.some.inj found
        have begun := (matchAt?_onward here).1
        omega
      · rename_i none_
        rcases Nat.eq_or_lt_of_le from_ with rfl | later
        · exact none_
        · exact ih found later

/-- **A search finds the leftmost match.** -/
theorem search_first {r : Regex} {t : Text} {m : Match} (found : search r t = some m) {p : Nat}
    (before : p < m.span.start) : matchAt? r t.toArray p false = none :=
  searchFrom_first found (Nat.zero_le p) before

theorem search_isSome {r : Regex} {t : Text} {p : Nat} (within : p ≤ t.length)
    (here : (matchAt? r t.toArray p false).isSome = true) : (search r t).isSome = true :=
  searchFrom_isSome here (Nat.zero_le p) (by omega)

/-- A search that does not need to move finds nothing but what is there without moving. -/
theorem searchFrom_still {r : Regex} {text : Array Char} {count start : Nat} {m : Match}
    (found : searchFrom r text count start false = some m) :
    m.span.start < start + count ∧ matchAt? r text m.span.start false = some m := by
  induction count generalizing start with
  | zero => simp [searchFrom] at found
  | succ count ih =>
      simp only [searchFrom] at found
      split at found
      · rename_i m' here
        obtain rfl := Option.some.inj found
        have begun := (matchAt?_onward here).1
        exact ⟨by omega, by rwa [begun]⟩
      · obtain ⟨before, here⟩ := ih found
        exact ⟨by omega, here⟩

/-- **A search finds something where there is a match at some place.** -/
theorem isFoundIn_iff_matchAt? {r : Regex} {t : Text} :
    isFoundIn r t = true ↔ ∃ p ≤ t.length, (matchAt? r t.toArray p false).isSome = true := by
  constructor
  · intro some_
    obtain ⟨m, found⟩ := Option.isSome_iff_exists.1 some_
    obtain ⟨before, here⟩ := searchFrom_still found
    exact ⟨m.span.start, by omega, Option.isSome_iff_exists.2 ⟨m, here⟩⟩
  · rintro ⟨p, within, here⟩
    exact search_isSome within here

/-- What is found first of all is what a search finds. -/
theorem findAll_head {r : Regex} {t : Text} {m : Match} (found : search r t = some m) :
    ∃ rest, findAll r t = m :: rest := by
  rw [search] at found
  rw [findAll, matchesFrom, List.size_toArray, Nat.sub_zero, found]
  exact ⟨_, rfl⟩

/-- **The matches of a text follow each other.** -/
theorem findAll_chain (r : Regex) (t : Text) :
    (findAll r t).Pairwise fun m m' => m.span.stop ≤ m'.span.start :=
  matchesFrom_chain r t.toArray _ 0 false

end Graft.Regex
