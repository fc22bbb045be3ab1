/-
# Graft.Proofs.Patch.Edits -- the edits that a descriptor asks for

Everything that a descriptor changes is looked for in the base text, so the edits that it asks for are known
beforehand: `Descriptor.edits` lists them in order.  So whether descriptors fail is a question about lists of
edits, and no longer about buffers on the way.

This is so for descriptors that can be read at all: their patterns compile and are steady, and their templates
refer to groups that there are (`Descriptor.reads`).
-/
import Graft.Patch.Application
import Graft.Patch.Recipe
import Graft.Proofs.Edit.Calls
import Graft.Proofs.Regex.Matches
import Graft.Proofs.Text.Substitution

namespace Graft.Edit.Buffer

set_option autoImplicit false

/-- The buffer with more edits, made last. -/
def adding (b : Buffer) (es : List Edit) : Buffer := { b with edits := b.edits ++ es }

theorem adding_nil (b : Buffer) : b.adding [] = b := by simp [adding]

theorem adding_adding (b : Buffer) (es es' : List Edit) : (b.adding es).adding es' = b.adding (es ++ es') := by
  simp [adding]

theorem adding_singleton (b : Buffer) (e : Edit) : b.adding [e] = b.add e := rfl

theorem Sound.of_adding {b : Buffer} {es : List Edit} (sound : (b.adding es).Sound) : b.Sound where
  inRange := fun e member => sound.inRange e (List.mem_append_left es member)
  apart := (List.pairwise_append.1 sound.apart).1

end Graft.Edit.Buffer

namespace Graft.Patch

set_option autoImplicit false

open Graft.Edit

/-! ## Matches that are fetched -/

/-- A match that is overwritten. -/
def occurrenceOf (content : Regex.Match → Except Regex.Fault Text) (m : Regex.Match) : Occurrence :=
  ⟨m.span.start, m.span.stop, content m⟩

theorem limited_eq {α : Type} (r : Replacement) (xs : List α) : limited r.count xs = Text.atMost r.limit? xs := by
  unfold limited Replacement.limit?
  split <;> rfl

/-- The matches that are fetched while `left` more may be overwritten: the last one is only looked at. -/
def Replacement.fetchedFrom : Option Nat → List Regex.Match → List Regex.Match
  | _, [] => []
  | left, m :: rest =>
    if left = some 0 then [m]
    else m :: fetchedFrom (if m.span.start = m.span.stop then left else left.map (· - 1)) rest

theorem fetchedFrom_sublist (left : Option Nat) (ms : List Regex.Match) :
    (Replacement.fetchedFrom left ms).Sublist ms := by
  induction ms generalizing left with
  | nil => exact List.nil_sublist _
  | cons m rest ih =>
      rw [Replacement.fetchedFrom]
      split
      · exact List.singleton_sublist.2 List.mem_cons_self
      · exact (ih _).cons_cons m

/-- Whether a match is overwritten when it is fetched. -/
def isProper (m : Regex.Match) : Bool := m.span.start != m.span.stop

theorem isProper_iff {m : Regex.Match} : isProper m = true ↔ m.span.start ≠ m.span.stop := bne_iff_ne

section Fetched

variable (content : Regex.Match → Except Regex.Fault Text) {m : Regex.Match} {ms before after : List Regex.Match}

theorem fetched_cons {left : Option Nat} (own : m.isCrossed = false) (some_ : left ≠ some 0) :
    Replacement.fetched content left (m :: ms) =
      ([m].filter isProper).map (occurrenceOf content) ++
        Replacement.fetched content (if m.span.start = m.span.stop then left else left.map (· - 1)) ms := by
  rw [Replacement.fetched, own, if_neg Bool.false_ne_true, if_neg some_]
  by_cases empty : m.span.start = m.span.stop
  · simp [empty, isProper]
  · rw [if_neg empty, if_neg empty, List.filter_cons_of_pos (isProper_iff.2 empty)]
    rfl

/-- Without a crossed match among those that are fetched, the first that are not empty are overwritten. -/
theorem fetched_of_uncrossed {left : Option Nat}
    (clear : ∀ m ∈ Replacement.fetchedFrom left ms, m.isCrossed = false) :
    Replacement.fetched content left ms = (Text.atMost left (ms.filter isProper)).map (occurrenceOf content) := by
  induction ms generalizing left with
  | nil => cases left <;> simp [Replacement.fetched, Text.atMost]
  | cons m rest ih =>
      rw [Replacement.fetchedFrom] at clear
      split at clear
      · rename_i full
        subst full
        rw [Replacement.fetched, List.forall_mem_singleton.1 clear, if_neg Bool.false_ne_true, if_pos rfl]
        rfl
      · rename_i some_
        obtain ⟨own, clear⟩ := List.forall_mem_cons.1 clear
        rw [fetched_cons content own some_, ih clear]
        by_cases empty : m.span.start = m.span.stop
        · simp [empty, isProper]
        · rw [if_neg empty, List.filter_cons_of_pos (isProper_iff.2 empty), List.filter_cons_of_pos
            (isProper_iff.2 empty), Text.atMost_cons some_]
          rfl

end Fetched

/-- Each occurrence has the range of a match. -/
theorem mem_fetched {content : Regex.Match → Except Regex.Fault Text} {left : Option Nat} {ms : List Regex.Match}
    {o : Occurrence} (member : o ∈ Replacement.fetched content left ms) :
    ∃ m ∈ ms, o.start = m.span.start ∧ o.stop = m.span.stop := by
  induction ms generalizing left with
  | nil => simp [Replacement.fetched] at member
  | cons m rest ih =>
      have later : ∀ {left}, o ∈ Replacement.fetched content left rest →
          ∃ m' ∈ m :: rest, o.start = m'.span.start ∧ o.stop = m'.span.stop := by
        intro left inRest
        obtain ⟨m', inList, range⟩ := ih inRest
        exact ⟨m', List.mem_cons_of_mem m inList, range⟩
      rw [Replacement.fetched] at member
      split at member
      · obtain rfl := List.mem_singleton.1 member
        exact ⟨m, List.mem_cons_self, rfl, rfl⟩
      · split at member
        · simp at member
        · split at member
          · exact later member
          · rcases List.mem_cons.1 member with rfl | inRest
            · exact ⟨m, List.mem_cons_self, rfl, rfl⟩
            · exact later inRest

/-- Matches that follow each other are occurrences that do. -/
theorem fetched_chain (content : Regex.Match → Except Regex.Fault Text) {ms : List Regex.Match}
    (chain : ms.Pairwise fun m m' => m.span.stop ≤ m'.span.start) (left : Option Nat) :
    (Replacement.fetched content left ms).Pairwise fun o o' => o.stop ≤ o'.start := by
  induction ms generalizing left with
  | nil => simp [Replacement.fetched]
  | cons m rest ih =>
      obtain ⟨first, chain⟩ := List.pairwise_cons.1 chain
      rw [Replacement.fetched]
      split
      · exact List.pairwise_singleton _ _
      · split
        · exact List.Pairwise.nil
        · split
          · exact ih chain left
          · refine List.pairwise_cons.2 ⟨fun o member => ?_, ih chain _⟩
            obtain ⟨m', inRest, begins, -⟩ := mem_fetched member
            exact Nat.le_trans (first m' inRest) (Nat.le_of_eq begins.symm)

/-- Where nothing goes wrong, no more is overwritten than is allowed. -/
theorem length_fetched_le {content : Regex.Match → Except Regex.Fault Text} {n : Nat} {ms : List Regex.Match}
    (had : ∀ o ∈ Replacement.fetched content (some n) ms, ∃ c, o.content = .ok c) :
    (Replacement.fetched content (some n) ms).length ≤ n := by
  induction ms generalizing n with
  | nil => exact Nat.zero_le _
  | cons m rest ih =>
      rw [Replacement.fetched] at had ⊢
      split at had
      · simp at had
      · rename_i uncrossed
        rw [if_neg uncrossed]
        split at had
        · rename_i full
          rw [if_pos full]
          exact Nat.zero_le _
        · rename_i some_
          rw [if_neg some_]
          split at had
          · rename_i empty
            rw [if_pos empty]
            exact ih had
          · rename_i proper
            rw [if_neg proper, List.length_cons]
            have positive : n ≠ 0 := fun zero => some_ (congrArg some zero)
            have later : ((Replacement.fetched content (some (n - 1)) rest).length ≤ n - 1) :=
              ih (List.forall_mem_cons.1 had).2
            simp only [Option.map_some]
            omega

/-- The matches of a steady pattern that are overwritten. -/
theorem regexOccurrences_of_steady {r : Replacement} {regex : Regex} (steady : regex.isSteady = true) (t : Text) :
    r.regexOccurrences regex t =
      (limited r.count ((Regex.findAll regex t).filter isProper)).map
        (occurrenceOf (Regex.expandTemplate regex r.replacement t)) := by
  rw [Replacement.regexOccurrences, fetched_of_uncrossed, ← limited_eq]
  intro m member
  obtain ⟨moving, at_⟩ := Regex.matchAt?_of_mem_findAll ((fetchedFrom_sublist _ _).subset member)
  exact Regex.isCrossed_of_steady steady at_

/-! ## Edits asked for -/

/-- The edit that an occurrence asks for. -/
def Occurrence.edit (o : Occurrence) : Edit := .overwrite o.start o.stop (o.content.toOption.getD [])

/-- The edits that a replacement asks for in a text. -/
def Replacement.edits (r : Replacement) (t : Text) : List Edit :=
  match r.occurrences t with
  | .ok occurrences => occurrences.map (·.edit)
  | .error _ => []

theorem regex_edits {r : Replacement} (kind : r.regex = true) {regex : Regex}
    (compiled : Regex.compile {} r.pattern = .ok regex) (t : Text) :
    r.edits t = (r.regexOccurrences regex t).map (·.edit) := by
  simp [Replacement.edits, Replacement.occurrences, kind, compiled, bind, Except.bind, pure, Except.pure]

theorem steady_edits {r : Replacement} (kind : r.regex = true) {regex : Regex}
    (compiled : Regex.compile {} r.pattern = .ok regex) (steady : regex.isSteady = true) (t : Text) :
    r.edits t = ((limited r.count ((Regex.findAll regex t).filter isProper)).map
      (occurrenceOf (Regex.expandTemplate regex r.replacement t))).map (·.edit) := by
  rw [regex_edits kind compiled, regexOccurrences_of_steady steady]

/-- The edits that an insertion asks for: none without a place for it. -/
def Insertion.edits (i : Insertion) (t : Text) : List Edit :=
  match insertionPoint t i with
  | .ok (some index) => i.renames.flatMap (·.edits t) ++ [.insertion index i.template]
  | _ => []

theorem Insertion.edits_of_found {i : Insertion} {t : Text} {index : Nat}
    (found : insertionPoint t i = .ok (some index)) :
    i.edits t = i.renames.flatMap (·.edits t) ++ [.insertion index i.template] := by
  simp only [Insertion.edits, found]

def Descriptor.edits (d : Descriptor) (t : Text) : List Edit :=
  d.replacements.flatMap (·.edits t) ++ d.insertions.flatMap (·.edits t)

/-! ## Descriptors that can be read -/

def Replacement.reads (r : Replacement) : Bool :=
  !r.regex ||
    match Regex.compile {} r.pattern with
    | .ok regex => regex.isSteady && (Regex.TemplatePart.read regex r.replacement).isOk
    | .error _ => false

/-- The pattern compiles and is steady. -/
def readsSteady (pattern : Text) : Bool := (Regex.compile {} pattern).toOption.any (·.isSteady)

def Insertion.reads (i : Insertion) : Bool :=
  readsSteady i.anchor && readsSteady i.innerAnchor && i.renames.all (·.reads)

def Descriptor.reads (d : Descriptor) : Bool := d.replacements.all (·.reads) && d.insertions.all (·.reads)

theorem isOk_iff {ε α : Type} {x : Except ε α} : x.isOk = true ↔ ∃ a, x = .ok a := by
  cases x <;> simp [Except.isOk, Except.toBool]

theorem readsSteady_iff {pattern : Text} :
    readsSteady pattern = true ↔ ∃ regex, Regex.compile {} pattern = .ok regex ∧ regex.isSteady = true := by
  unfold readsSteady
  cases Regex.compile {} pattern <;> simp [Except.toOption]

theorem occurrences_of_reads {r : Replacement} (reads : r.reads = true) (t : Text) :
    ∃ occurrences, r.occurrences t = .ok occurrences ∧
      ∀ o ∈ occurrences, ∃ content, o.content = .ok content := by
  unfold Replacement.occurrences
  cases kind : r.regex with
  | false =>
      refine ⟨r.literalOccurrences t, by simp, fun o member => ?_⟩
      obtain ⟨start, -, rfl⟩ := List.mem_map.1 member
      exact ⟨r.replacement, rfl⟩
  | true =>
      simp only [Replacement.reads, kind, Bool.not_true, Bool.false_or] at reads
      split at reads
      · rename_i regex compiled
        simp only [Bool.and_eq_true] at reads
        obtain ⟨parts, read⟩ := isOk_iff.1 reads.2
        refine ⟨r.regexOccurrences regex t, ?_, fun o member => ?_⟩
        · simp [compiled, bind, Except.bind, pure, Except.pure]
        · rw [regexOccurrences_of_steady reads.1] at member
          obtain ⟨m, -, rfl⟩ := List.mem_map.1 member
          exact ⟨_, by simp [occurrenceOf, Regex.expandTemplate, read, bind, Except.bind, pure, Except.pure]; rfl⟩
      · simp at reads

theorem insertionPoint_of_reads {i : Insertion} (reads : i.reads = true) (t : Text) :
    ∃ place, insertionPoint t i = .ok place := by
  simp only [Insertion.reads, Bool.and_eq_true] at reads
  obtain ⟨anchor, compiled, steady⟩ := readsSteady_iff.1 reads.1.1
  obtain ⟨inner, compiled', steady'⟩ := readsSteady_iff.1 reads.1.2
  simp only [insertionPoint, compiled, compiled', Regex.find_of_steady steady, Regex.find_of_steady steady', bind,
    Except.bind, pure, Except.pure]
  split
  · exact ⟨_, rfl⟩
  · split <;> exact ⟨_, rfl⟩

/-- An insertion with a place has all of its parts: an anchor, the brace that closes its body, and an inner anchor
between the two. -/
theorem insertionPoint_found {i : Insertion} {t : Text} {index : Nat}
    (found : insertionPoint t i = .ok (some index)) :
    ∃ anchor inner m stop n, Regex.compile {} i.anchor = .ok anchor ∧ Regex.compile {} i.innerAnchor = .ok inner ∧
      Regex.search anchor t = some m ∧ Delimiters.braces.findClose t m.span.stop = some stop ∧
      Regex.search inner (t.slice m.span.stop stop) = some n ∧
      index = m.span.stop + (if i.placement = .before then n.span.start else n.span.stop) := by
  cases compiled : Regex.compile {} i.anchor with
  | error fault => simp [insertionPoint, compiled, bind, Except.bind] at found
  | ok anchor =>
      simp only [insertionPoint, compiled, bind, Except.bind, pure, Except.pure] at found
      split at found
      · simp at found
      · rename_i v searched
        split at found
        · simp at found
        · rename_i m
          split at found
          · simp at found
          · rename_i stop closes
            split at found
            · simp at found
            · rename_i inner compiled'
              split at found
              · simp at found
              · rename_i v' inBody
                obtain ⟨n, rfl, rfl⟩ := Option.map_eq_some_iff.1 (Except.ok.inj found)
                exact ⟨anchor, inner, m, stop, n, rfl, compiled', Regex.search_of_find searched, closes,
                  Regex.search_of_find inBody, rfl⟩

/-- An insertion whose parts are there has a place. -/
theorem insertionPoint_of_found {i : Insertion} {t : Text} {anchor inner : Regex} {m n : Regex.Match} {stop : Nat}
    (compiled : Regex.compile {} i.anchor = .ok anchor) (compiled' : Regex.compile {} i.innerAnchor = .ok inner)
    (steady : anchor.isSteady = true) (steady' : inner.isSteady = true) (searched : Regex.search anchor t = some m)
    (closes : Delimiters.braces.findClose t m.span.stop = some stop)
    (inBody : Regex.search inner (t.slice m.span.stop stop) = some n) :
    insertionPoint t i =
      .ok (some (m.span.stop + (if i.placement = .before then n.span.start else n.span.stop))) := by
  simp [insertionPoint, compiled, compiled', Regex.find_of_steady steady, Regex.find_of_steady steady', searched,
    closes, inBody, bind, Except.bind, pure, Except.pure]

end Graft.Patch
