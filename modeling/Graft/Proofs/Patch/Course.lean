/-
# Graft.Proofs.Patch.Course -- how a descriptor fares on a buffer

Everything that a descriptor changes is looked for in the base text, so what it asks for is the same whatever
edits the buffer holds already.  Two things decide how it fares.

* All of it can be read in the text (`Descriptor.Readable`): its patterns compile, and the templates of what is
  found refer to groups that there are.
* The buffer takes the edits asked for (`Buffer.Takes`): they fit the text, each other and the edits that are there.

If both hold, all the edits are made and the answer is known beforehand; otherwise the descriptor stops with a fault
after the first few (`Course`).  `applyDescriptor_course` says so of descriptors, with a report that counts the edits
and lists the anchors of the insertions that have no place (`Descriptor.report`).

On a sound buffer this comes to two shorter statements, one for descriptors that can be read in any text
(`applyDescriptor_makes`) and one for all (`applyDescriptor_reaches`).
-/
import Graft.Proofs.Patch.Edits

namespace Graft.Edit.Buffer

set_option autoImplicit false

variable {b : Buffer} {es es' : List Edit} {e : Edit}

/-- The buffer takes edits one after the other: they fit the text, each other and the edits that are there. -/
structure Takes (b : Buffer) (es : List Edit) : Prop where
  inRange : ∀ e ∈ es, e.InRange b.base.length
  apart : es.Pairwise Edit.Apart
  clear : ∀ x ∈ b.edits, ∀ e ∈ es, x.Apart e

theorem takes_nil (b : Buffer) : b.Takes [] := ⟨by simp, List.Pairwise.nil, by simp⟩

theorem takes_singleton : b.Takes [e] ↔ b.Admits e := by
  constructor
  · intro takes
    exact ⟨takes.inRange e List.mem_cons_self, fun x member => takes.clear x member e List.mem_cons_self⟩
  · rintro ⟨within, clear⟩
    exact ⟨by simpa using within, List.pairwise_singleton _ _, by simpa using clear⟩

theorem takes_append : b.Takes (es ++ es') ↔ b.Takes es ∧ (b.adding es).Takes es' := by
  constructor
  · intro ⟨inRange, apart, clear⟩
    obtain ⟨first, second, between⟩ := List.pairwise_append.1 apart
    refine ⟨⟨fun e member => ?_, first, fun x inBuffer e member => ?_⟩,
      ⟨fun e member => ?_, second, fun x inBuffer e member => ?_⟩⟩
    · exact inRange e (List.mem_append_left _ member)
    · exact clear x inBuffer e (List.mem_append_left _ member)
    · exact inRange e (List.mem_append_right _ member)
    · rcases List.mem_append.1 inBuffer with before | new
      · exact clear x before e (List.mem_append_right _ member)
      · exact between x new e member
  · intro ⟨first, second⟩
    refine ⟨List.forall_mem_append.2 ⟨first.inRange, second.inRange⟩, ?_, fun x inBuffer => ?_⟩
    · refine List.pairwise_append.2 ⟨first.apart, second.apart, fun e member => ?_⟩
      exact second.clear e (List.mem_append_right _ member)
    · exact List.forall_mem_append.2
        ⟨first.clear x inBuffer, second.clear x (List.mem_append_left _ inBuffer)⟩

theorem Takes.sublist (takes : b.Takes es) (fewer : es'.Sublist es) : b.Takes es' where
  inRange := fun e member => takes.inRange e (fewer.subset member)
  apart := takes.apart.sublist fewer
  clear := fun x inBuffer e member => takes.clear x inBuffer e (fewer.subset member)

/-- The order in which edits are asked for does not decide whether they are taken. -/
theorem Takes.perm (takes : b.Takes es) (perm : es'.Perm es) : b.Takes es' where
  inRange := fun e member => takes.inRange e (perm.mem_iff.1 member)
  apart := perm.symm.pairwise takes.apart Edit.Apart.symm
  clear := fun x inBuffer e member => takes.clear x inBuffer e (perm.mem_iff.1 member)

/-- What a buffer takes is taken by a fresh one for the same text. -/
theorem Takes.fresh (takes : b.Takes es) : (ofText b.base).Takes es :=
  ⟨takes.inRange, takes.apart, by simp [ofText]⟩

theorem adding_sound_iff (sound : b.Sound) : (b.adding es).Sound ↔ b.Takes es := by
  constructor
  · intro both
    obtain ⟨-, apart, clear⟩ := List.pairwise_append.1 both.apart
    exact ⟨fun e member => both.inRange e (List.mem_append_right _ member), apart, clear⟩
  · intro takes
    exact ⟨List.forall_mem_append.2 ⟨sound.inRange, takes.inRange⟩,
      List.pairwise_append.2 ⟨sound.apart, takes.apart, takes.clear⟩⟩

end Graft.Edit.Buffer

namespace Graft.Patch

set_option autoImplicit false

open Graft.Edit

/-! ## What can be read in a text -/

def Replacement.Readable (r : Replacement) (t : Text) : Prop :=
  ∃ occurrences, r.occurrences t = .ok occurrences ∧ ∀ o ∈ occurrences, ∃ content, o.content = .ok content

/-- The renames count only if the insertion has a place. -/
def Insertion.Readable (i : Insertion) (t : Text) : Prop :=
  ∃ place, insertionPoint t i = .ok place ∧ (place.isSome = true → ∀ r ∈ i.renames, r.Readable t)

def Descriptor.Readable (d : Descriptor) (t : Text) : Prop :=
  (∀ r ∈ d.replacements, r.Readable t) ∧ ∀ i ∈ d.insertions, i.Readable t

theorem Descriptor.readable_of_reads {d : Descriptor} (reads : d.reads = true) (t : Text) : d.Readable t := by
  simp only [Descriptor.reads, Bool.and_eq_true, List.all_eq_true] at reads
  refine ⟨fun r member => occurrences_of_reads (reads.1 r member) t, fun i member => ?_⟩
  have own := reads.2 i member
  obtain ⟨place, found⟩ := insertionPoint_of_reads own t
  simp only [Insertion.reads, Bool.and_eq_true, List.all_eq_true] at own
  exact ⟨place, found, fun _ r inRenames => occurrences_of_reads (own.2 r inRenames) t⟩

/-! ## Courses -/

/-- How something fares that asks a buffer for edits and answers with `a`: everything can be read and the buffer takes
the edits, or it stops after the first few. -/
inductive Course {α : Type} (b : Buffer) (es : List Edit) (readable : Prop) (a : α) :
    Buffer × Except PatchFault α → Prop where
  | done (reads : readable) (takes : b.Takes es) : Course b es readable a (b.adding es, .ok a)
  | stopped {made : List Edit} {fault : PatchFault} (upTo : made <+: es) (taken : b.Takes made)
      (stops : ¬ (readable ∧ b.Takes es)) : Course b es readable a (b.adding made, .error fault)

section

variable {α β : Type} {b : Buffer} {es es' : List Edit} {readable readable' : Prop} {a : α} {c : β}
variable {outcome : Buffer × Except PatchFault α}

/-- Nothing was made. -/
theorem Course.refused (fault : PatchFault) (stops : ¬ (readable ∧ b.Takes es)) :
    Course b es readable a (b, .error fault) := by
  have stopped : Course b es readable a (b.adding [], .error fault) := .stopped List.nil_prefix b.takes_nil stops
  rwa [b.adding_nil] at stopped

/-- Nothing was asked for. -/
theorem Course.idle (reads : readable) : Course b [] readable a (b, .ok a) := by
  have done := Course.done (a := a) reads b.takes_nil
  rwa [b.adding_nil] at done

theorem Course.map (course : Course b es readable a outcome) (f : α → β) :
    Course b es readable (f a) (outcome.1, outcome.2.map f) := by
  cases course with
  | done reads takes => exact .done reads takes
  | stopped upTo taken stops => exact .stopped upTo taken stops

/-- What stops makes all stop. -/
theorem Course.stops {fault : PatchFault} {made : List Edit} (upTo : made <+: es) (taken : b.Takes made)
    (stops : ¬ (readable ∧ b.Takes es)) (es' : List Edit) (readable' : Prop) (c : β) :
    Course b (es ++ es') (readable ∧ readable') c (b.adding made, .error fault) := by
  refine .stopped (upTo.trans (List.prefix_append es es')) taken ?_
  rintro ⟨⟨reads, -⟩, takes⟩
  exact stops ⟨reads, (Buffer.takes_append.1 takes).1⟩

/-- What is done hands over to what comes after it. -/
theorem Course.follows (reads : readable) (takes : b.Takes es)
    (later : Course (b.adding es) es' readable' a outcome) :
    Course b (es ++ es') (readable ∧ readable') a outcome := by
  cases later with
  | done reads' takes' =>
      rw [Buffer.adding_adding]
      exact .done ⟨reads, reads'⟩ (Buffer.takes_append.2 ⟨takes, takes'⟩)
  | stopped upTo taken stops =>
      rw [Buffer.adding_adding]
      refine .stopped ((List.prefix_append_right_inj es).2 upTo) (Buffer.takes_append.2 ⟨takes, taken⟩) ?_
      rintro ⟨⟨-, reads'⟩, all⟩
      exact stops ⟨reads', (Buffer.takes_append.1 all).2⟩

theorem Course.congr (course : Course b es readable a outcome) (same : readable ↔ readable') {a' : α}
    (answer : a = a') : Course b es readable' a' outcome := by
  rwa [← propext same, ← answer]

/-- A course that did not stop. -/
theorem Course.of_ok (course : Course b es readable a outcome) {x : α} (ran : outcome.2 = .ok x) :
    readable ∧ b.Takes es ∧ outcome.1 = b.adding es ∧ x = a := by
  cases course with
  | done reads takes => exact ⟨reads, takes, rfl, (Except.ok.inj ran).symm⟩
  | stopped => simp at ran

/-- A course that has no cause to stop. -/
theorem Course.completes (course : Course b es readable a outcome) (reads : readable) (takes : b.Takes es) :
    outcome = (b.adding es, .ok a) := by
  cases course with
  | done => rfl
  | stopped _ _ stops => exact absurd ⟨reads, takes⟩ stops

end

/-! ## Replacements -/

theorem overwriteAll_course (b : Buffer) (occurrences : List Occurrence) :
    Course b (occurrences.map (·.edit)) (∀ o ∈ occurrences, ∃ content, o.content = .ok content)
      occurrences.length (overwriteAll b occurrences) := by
  induction occurrences generalizing b with
  | nil => exact .idle (by simp)
  | cons o rest ih =>
      rw [List.map_cons, List.forall_mem_cons, overwriteAll]
      split
      · rename_i fault unread
        refine .refused _ ?_
        rintro ⟨⟨⟨content, read⟩, -⟩, -⟩
        simp [unread] at read
      · rename_i content read
        have edit : o.edit = .overwrite o.start o.stop content := by
          simp [Occurrence.edit, read, Except.toOption]
        have admits_iff : b.Takes [o.edit] ↔ ∃ b', b.overwrite o.start o.stop content = .ok b' := by
          rw [Buffer.takes_singleton, edit]
          constructor
          · intro admits
            exact ⟨_, (b.overwrite_eq_ok_iff _ o.start o.stop content).2 ⟨_, _, rfl, rfl, admits, rfl⟩⟩
          · rintro ⟨b', taken⟩
            obtain ⟨s, e, first, last, admits, -⟩ := (b.overwrite_eq_ok_iff b' o.start o.stop content).1 taken
            rwa [Int.ofNat_inj.1 first, Int.ofNat_inj.1 last]
        split
        · rename_i fault refuses
          refine .refused _ ?_
          rintro ⟨-, takes⟩
          obtain ⟨b', taken⟩ := admits_iff.1 (takes.sublist (List.singleton_sublist.2 List.mem_cons_self))
          simp [refuses] at taken
        · rename_i b' taken
          have takes := admits_iff.2 ⟨b', taken⟩
          obtain ⟨s, e, first, last, -, rfl⟩ := (b.overwrite_eq_ok_iff b' o.start o.stop content).1 taken
          obtain rfl := Int.ofNat_inj.1 first
          obtain rfl := Int.ofNat_inj.1 last
          rw [← edit, ← Buffer.adding_singleton]
          exact .follows ⟨content, read⟩ takes ((ih _).map (· + 1))

theorem Replacement.length_edits {r : Replacement} {t : Text} {occurrences : List Occurrence}
    (found : r.occurrences t = .ok occurrences) : (r.edits t).length = occurrences.length := by
  rw [Replacement.edits, found, List.length_map]

theorem applyReplacement_course (b : Buffer) (r : Replacement) :
    Course b (r.edits b.base) (r.Readable b.base) (r.edits b.base).length (applyReplacement b r) := by
  rw [applyReplacement]
  split
  · rename_i fault unread
    refine .refused _ ?_
    rintro ⟨⟨occurrences, found, -⟩, -⟩
    simp [unread] at found
  · rename_i occurrences found
    rw [Replacement.length_edits found, Replacement.edits, found]
    refine (overwriteAll_course b occurrences).congr ?_ rfl
    simp [Replacement.Readable, found]

theorem applyReplacements_course (b : Buffer) (rs : List Replacement) :
    Course b (rs.flatMap (·.edits b.base)) (∀ r ∈ rs, r.Readable b.base) (rs.flatMap (·.edits b.base)).length
      (applyReplacements b rs) := by
  induction rs generalizing b with
  | nil => exact .idle (by simp)
  | cons r rest ih =>
      have first := applyReplacement_course b r
      rw [List.flatMap_cons, List.forall_mem_cons, List.length_append, applyReplacements]
      generalize applyReplacement b r = outcome at first ⊢
      cases first with
      | stopped upTo taken stops => exact .stops upTo taken stops _ _ _
      | done reads takes => exact .follows reads takes ((ih (b.adding _)).map (_ + ·))

/-! ## Insertions -/

/-- There is no place for the insertion in a text. -/
def Insertion.missingIn (i : Insertion) (t : Text) : Bool := insertionPoint t i = .ok none

/-- How many renames come with the insertion, if there is a place for it. -/
def Insertion.renamed? (i : Insertion) (t : Text) : Option Nat :=
  if i.missingIn t then none else some (i.renames.flatMap (·.edits t)).length

theorem insert_course (b : Buffer) (index : Nat) (content : Text) :
    (b.Takes [.insertion index content] ∧
        b.insert index content = .ok (b.adding [.insertion index content])) ∨
      (¬ b.Takes [.insertion index content] ∧ ∃ fault, b.insert index content = .error fault) := by
  rw [b.adding_singleton, Buffer.takes_singleton]
  cases taken : b.insert index content with
  | error fault =>
      refine .inr ⟨fun admits => ?_, fault, rfl⟩
      have accepted := (b.insert_eq_ok_iff _ index content).2 ⟨index, rfl, admits, rfl⟩
      simp [taken] at accepted
  | ok b' =>
      obtain ⟨i, named, admits, rfl⟩ := (b.insert_eq_ok_iff b' index content).1 taken
      obtain rfl := Int.ofNat_inj.1 named
      exact .inl ⟨admits, rfl⟩

theorem applyInsertion_course (b : Buffer) (i : Insertion) :
    Course b (i.edits b.base) (i.Readable b.base) (i.renamed? b.base) (applyInsertion b i) := by
  rw [applyInsertion, Insertion.edits, Insertion.renamed?, Insertion.missingIn]
  cases found : insertionPoint b.base i with
  | error fault =>
      refine .refused _ ?_
      rintro ⟨⟨place, found', -⟩, -⟩
      simp [found] at found'
  | ok place =>
      cases place with
      | none => exact .idle ⟨none, found, by simp⟩
      | some index =>
          have renames := applyReplacements_course b i.renames
          have readable_iff : (∀ r ∈ i.renames, r.Readable b.base) ∧ True ↔ i.Readable b.base := by
            simp [Insertion.Readable, found]
          simp only
          generalize applyReplacements b i.renames = outcome at renames ⊢
          refine Course.congr ?_ readable_iff rfl
          cases renames with
          | stopped upTo taken stops => exact .stops upTo taken stops _ _ _
          | done reads takes =>
              refine .follows reads takes ?_
              simp only
              rcases insert_course (b.adding _) index i.template with ⟨fits, inserted⟩ | ⟨not_, fault, refuses⟩
              · rw [inserted]
                exact .done trivial fits
              · rw [refuses]
                exact .refused _ fun both => not_ both.2

/-! ## Descriptors -/

/-- The report with more edits, and anchors of more insertions that have no place. -/
def Report.plus (report : Report) (es : List Edit) (missing : List Text) : Report :=
  { report with
    replacements := report.replacements + es.countP (·.isOverwrite)
    insertions := report.insertions + es.countP (!·.isOverwrite)
    missingAnchors := report.missingAnchors ++ missing }

theorem Report.plus_plus (report : Report) (es es' : List Edit) (missing missing' : List Text) :
    (report.plus es missing).plus es' missing' = report.plus (es ++ es') (missing ++ missing') := by
  simp [Report.plus, List.countP_append, Nat.add_assoc]

/-- The insertions of a list that have no place in a text. -/
def missingFrom (t : Text) (is : List Insertion) : List Insertion := is.filter (·.missingIn t)

/-- What is reported of a descriptor that is carried out on a text. -/
def Descriptor.report (d : Descriptor) (t : Text) : Report :=
  Report.plus { descriptor := d.name } (d.edits t) ((missingFrom t d.insertions).map (·.anchor))

theorem Replacement.isOverwrite_of_mem {r : Replacement} {t : Text} {e : Edit} (member : e ∈ r.edits t) :
    e.isOverwrite = true := by
  unfold Replacement.edits at member
  split at member
  · obtain ⟨o, -, rfl⟩ := List.mem_map.1 member
    rfl
  · simp at member

theorem countP_replacements (rs : List Replacement) (t : Text) :
    (rs.flatMap (·.edits t)).countP (·.isOverwrite) = (rs.flatMap (·.edits t)).length ∧
      (rs.flatMap (·.edits t)).countP (!·.isOverwrite) = 0 := by
  have all : ∀ e ∈ rs.flatMap (·.edits t), e.isOverwrite = true := by
    intro e member
    obtain ⟨r, -, inEdits⟩ := List.mem_flatMap.1 member
    exact r.isOverwrite_of_mem inEdits
  exact ⟨List.countP_eq_length.2 all, List.countP_eq_zero.2 fun e member => by simp [all e member]⟩

theorem missingFrom_cons (t : Text) (i : Insertion) (rest : List Insertion) :
    missingFrom t (i :: rest) = missingFrom t [i] ++ missingFrom t rest :=
  List.filter_append [i] rest

/-- What an insertion adds to a report, by what became of it. -/
theorem Report.plus_insertion (report : Report) {i : Insertion} {t : Text} (readable : i.Readable t) :
    report.plus (i.edits t) ((missingFrom t [i]).map (·.anchor)) =
      match i.renamed? t with
      | none => { report with missingAnchors := report.missingAnchors ++ [i.anchor] }
      | some count =>
        { report with replacements := report.replacements + count, insertions := report.insertions + 1 } := by
  obtain ⟨place, found, -⟩ := readable
  obtain ⟨overwrites, none_⟩ := countP_replacements i.renames t
  cases place with
  | none =>
      have missing : i.missingIn t = true := decide_eq_true found
      simp [Report.plus, Insertion.renamed?, Insertion.edits, missingFrom, missing, found]
  | some index =>
      have there : i.missingIn t = false := by simp [Insertion.missingIn, found]
      have own : [Edit.insertion index i.template].countP (·.isOverwrite) = 0 := rfl
      have own' : [Edit.insertion index i.template].countP (!·.isOverwrite) = 1 := rfl
      rw [Report.plus, Insertion.renamed?, missingFrom, Insertion.edits_of_found found, List.countP_append,
        List.countP_append, overwrites, none_, own, own', there]
      simp [there]

theorem applyInsertions_course (file : Text) (b : Buffer) (report : Report) (is : List Insertion) :
    Course b (is.flatMap (·.edits b.base)) (∀ i ∈ is, i.Readable b.base)
      (report.plus (is.flatMap (·.edits b.base)) ((missingFrom b.base is).map (·.anchor)))
      ((applyInsertions file b report is).buffer, (applyInsertions file b report is).result) := by
  induction is generalizing b report with
  | nil =>
      refine (Course.idle (a := report) (by simp)).congr Iff.rfl ?_
      simp [Report.plus, missingFrom]
  | cons i rest ih =>
      have first := applyInsertion_course b i
      rw [List.flatMap_cons, List.forall_mem_cons, missingFrom_cons, List.map_append, ← Report.plus_plus,
        applyInsertions]
      generalize applyInsertion b i = outcome at first ⊢
      cases first with
      | stopped upTo taken stops => exact .stops upTo taken stops _ _ _
      | done reads takes =>
          rw [report.plus_insertion reads]
          cases i.renamed? b.base <;> exact .follows reads takes (ih (b.adding _) _)

/-- **How a descriptor fares**: it can be read and the buffer takes the edits that it asks for, or it stops. -/
theorem applyDescriptor_course (b : Buffer) (d : Descriptor) (file : Text) :
    Course b (d.edits b.base) (d.Readable b.base) (d.report b.base)
      ((applyDescriptor b d file).buffer, (applyDescriptor b d file).result) := by
  have first := applyReplacements_course b d.replacements
  obtain ⟨overwrites, none_⟩ := countP_replacements d.replacements b.base
  rw [Descriptor.edits, Descriptor.report, Descriptor.Readable, applyDescriptor]
  generalize applyReplacements b d.replacements = outcome at first ⊢
  cases first with
  | stopped upTo taken stops => exact .stops upTo taken stops _ _ _
  | done reads takes =>
      have later := applyInsertions_course file (b.adding (d.replacements.flatMap (·.edits b.base)))
        { descriptor := d.name, replacements := (d.replacements.flatMap (·.edits b.base)).length } d.insertions
      have added : (Report.plus { descriptor := d.name } (d.replacements.flatMap (·.edits b.base)) []) =
          { descriptor := d.name, replacements := (d.replacements.flatMap (·.edits b.base)).length } := by
        simp [Report.plus, overwrites, none_]
      rw [Descriptor.edits, ← List.nil_append (List.map _ _), ← Report.plus_plus, added]
      simp only
      split <;> exact .follows reads takes later

section

variable {b : Buffer} {d : Descriptor} {file : Text} {report : Report}

theorem applyDescriptor_ok_iff : (applyDescriptor b d file).result = .ok report ↔
    (d.Readable b.base ∧ b.Takes (d.edits b.base)) ∧ report = d.report b.base := by
  have course := applyDescriptor_course b d file
  constructor
  · intro ran
    obtain ⟨readable, takes, -, answer⟩ := course.of_ok ran
    exact ⟨⟨readable, takes⟩, answer⟩
  · rintro ⟨⟨readable, takes⟩, rfl⟩
    exact (Prod.mk.inj (course.completes readable takes)).2

theorem applyDescriptor_buffer (ran : (applyDescriptor b d file).result = .ok report) :
    (applyDescriptor b d file).buffer = b.adding (d.edits b.base) :=
  ((applyDescriptor_course b d file).of_ok ran).2.2.1

end

/-! ## Sound buffers -/

/-- The buffer takes all of the edits, if with its own they are sound; otherwise there is a fault. -/
def Makes {α : Type} (b : Buffer) (es : List Edit) (outcome : Buffer × Except PatchFault α) : Prop :=
  ((b.adding es).Sound ∧ ∃ a, outcome = (b.adding es, .ok a)) ∨
    (¬ (b.adding es).Sound ∧ ∃ b' fault, outcome = (b', .error fault))

/-- **A descriptor makes the edits that it asks for, or fails because they do not fit.** -/
theorem applyDescriptor_makes {b : Buffer} (sound : b.Sound) {d : Descriptor} (reads : d.reads = true)
    (file : Text) :
    Makes b (d.edits b.base) ((applyDescriptor b d file).buffer, (applyDescriptor b d file).result) := by
  have course := applyDescriptor_course b d file
  rw [Makes, Buffer.adding_sound_iff sound]
  generalize ((applyDescriptor b d file).buffer, (applyDescriptor b d file).result) = outcome at course ⊢
  cases course with
  | done _ takes => exact .inl ⟨takes, _, rfl⟩
  | stopped _ _ stops => exact .inr ⟨fun takes => stops ⟨d.readable_of_reads reads _, takes⟩, _, _, rfl⟩

/-- The buffer takes the first few of the edits, and all of them if there is no fault. -/
def Reaches {α : Type} (b : Buffer) (es : List Edit) (outcome : Buffer × Except PatchFault α) : Prop :=
  ∃ made, made <+: es ∧ outcome.1 = b.adding made ∧ (b.adding made).Sound ∧
    ∀ a, outcome.2 = .ok a → made = es

/-- **A descriptor makes the first few of the edits that it asks for**, and all of them if it does not fail. -/
theorem applyDescriptor_reaches {b : Buffer} (sound : b.Sound) (d : Descriptor) (file : Text) :
    Reaches b (d.edits b.base) ((applyDescriptor b d file).buffer, (applyDescriptor b d file).result) := by
  have course := applyDescriptor_course b d file
  generalize ((applyDescriptor b d file).buffer, (applyDescriptor b d file).result) = outcome at course ⊢
  cases course with
  | done _ takes =>
      exact ⟨_, List.prefix_refl _, rfl, (Buffer.adding_sound_iff sound).2 takes, fun _ _ => rfl⟩
  | stopped upTo taken =>
      exact ⟨_, upTo, rfl, (Buffer.adding_sound_iff sound).2 taken, fun _ ran => by simp at ran⟩

/-- The buffer that a descriptor leaves behind for a fresh text, whether it fails or not. -/
def applied (t : Text) (d : Descriptor) (file : Text) : Buffer := (applyDescriptor (Buffer.ofText t) d file).buffer

/-- A descriptor that does not stop leaves all the edits that it asks for. -/
theorem applied_of_ok {t file : Text} {d : Descriptor} {report : Report}
    (ran : (applyDescriptor (Buffer.ofText t) d file).result = .ok report) :
    applied t d file = (Buffer.ofText t).adding (d.edits t) ∧ (applied t d file).edits = d.edits t := by
  have buffer : applied t d file = (Buffer.ofText t).adding (d.edits t) := applyDescriptor_buffer ran
  refine ⟨buffer, ?_⟩
  rw [buffer]
  exact List.nil_append _

/-- What a descriptor leaves behind for a fresh text. -/
theorem applied_reaches (t : Text) (d : Descriptor) (file : Text) :
    (applied t d file).edits <+: d.edits t ∧ (applied t d file).Sound ∧ (applied t d file).base = t ∧
      (applied t d file).intro = [] := by
  obtain ⟨made, upTo, buffer, sound, -⟩ := applyDescriptor_reaches (Buffer.sound_ofText t) d file
  rw [show applied t d file = (Buffer.ofText t).adding made from buffer]
  exact ⟨upTo, sound, rfl, rfl⟩

end Graft.Patch
