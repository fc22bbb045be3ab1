/-
# Graft.Proofs.Service.Responses -- what a response depends on

A service keeps one session for all its requests, so what is asked first could change what is told later.  What the
session says cannot change: wherever one can be configured it is the same (`configured_agree`), and a failure leaves
none behind.

Whether a session can be configured at all is another matter.  The stack of calls leaves less room at some places than
at others, so a request may fail where it would have to configure the session, and succeed once a request to another
place has done that.  A service is `Even` for requests if configuring succeeds at all their places, or at none.  Then
each of them has the response that it has alone, in every order of them (`responses_orderly`).  And a manifest that is
nested too deep for one place and not too deep for another makes a difference (`responses_uneven`).

All of this holds over every `Wire`, whatever a request is and however it is routed and read.
-/
import Mathlib
import Graft.Service.App
import Graft.Proofs.Version.Room

namespace Graft

set_option autoImplicit false

open Graft.Version (Room)

namespace Session

variable {room room' : Room} {fs : FileSystem} {root : Text} {mode : Mode} {options : SessionOptions} {s : Settings}
  {compile : Regex.Compiler} {session session' : Session}

/-- Sessions that are configured in different rooms are the same. -/
theorem configure_agree (made : (configure room fs root mode options compile).result = .ok session)
    (made' : (configure room' fs root mode options compile).result = .ok session') : session' = session := by
  rw [configure] at made made'
  cases reads : FilterSet.ofLists mode options.lists compile with
  | error fault =>
      rw [reads] at made
      cases made
  | ok filters =>
      simp only [reads, Logged.map] at made made'
      cases decides : (Gate.evaluate room fs root options.threshold options.package).result with
      | error fault =>
          rw [decides] at made
          cases made
      | ok gate =>
          cases decides' : (Gate.evaluate room' fs root options.threshold options.package).result with
          | error fault =>
              rw [decides'] at made'
              cases made'
          | ok gate' =>
              rw [decides] at made
              rw [decides', Version.evaluate_agree decides decides'] at made'
              exact Except.ok.inj (made'.symm.trans made)

theorem ofSettings_agree (made : (ofSettings room fs s compile).result = .ok session)
    (made' : (ofSettings room' fs s compile).result = .ok session') : session' = session := by
  rw [ofSettings] at made made'
  cases named : Mode.parse (some s.mode) with
  | error fault =>
      rw [named] at made
      cases made
  | ok mode =>
      cases named' : s.applyCondition with
      | error fault =>
          rw [named] at made
          simp only [named'] at made
          cases made
      | ok apply =>
          rw [named] at made made'
          simp only [named'] at made made'
          exact configure_agree made made'

end Session

namespace Service

/-! ## The session -/

/-- What configuring gives at a place. -/
def App.configured (app : App) (place : Place) : Except SessionFault Session := (app.configure place).result

/-- The session that is kept, if there is one, is one that some place configures. -/
def App.Keeps (app : App) (state : State) : Prop :=
  ∀ session, state.session = some session → ∃ place, app.configured place = .ok session

variable {app : App} {state : State} {place place' : Place} {session session' : Session} {fault : SessionFault}
  {query : Query}

/-- **Wherever a session can be configured, it is the same.** -/
theorem configured_agree (made : app.configured place = .ok session) (made' : app.configured place' = .ok session') :
    session' = session :=
  Session.ofSettings_agree made made'

theorem keeps_fresh (app : App) : app.Keeps {} := by
  intro session kept
  cases kept

theorem keeps_some (made : app.configured place = .ok session) : app.Keeps ⟨some session⟩ := by
  intro session' kept
  obtain rfl := Option.some.inj kept
  exact ⟨place, made⟩

/-- The start keeps what configuring gives there. -/
theorem start_result (app : App) :
    app.start.result = (app.configured .start).map fun session => ⟨some session⟩ := by
  unfold App.start Logged.andThen App.configured
  cases (app.configure .start).result <;> rfl

theorem keeps_started (started : app.start.result = .ok state) : app.Keeps state := by
  rw [start_result] at started
  cases made : app.configured .start with
  | error fault =>
      rw [made] at started
      cases started
  | ok session =>
      rw [made] at started
      obtain rfl := Except.ok.inj started
      exact keeps_some made

/-! ## One query -/

/-- A session that is kept answers, and stays. -/
theorem answer_kept (app : App) (session : Session) (query : Query) :
    (app.answer ⟨some session⟩ query).state = ⟨some session⟩ ∧
      (app.answer ⟨some session⟩ query).response = (query.answered app.files session).result := ⟨rfl, rfl⟩

/-- Without one, the session that the place of the query configures answers, and is kept. -/
theorem answer_made (made : app.configured query.place = .ok session) :
    (app.answer {} query).state = ⟨some session⟩ ∧
      (app.answer {} query).response = (query.answered app.files session).result := by
  have result : (app.configure query.place).result = .ok session := made
  simp only [App.answer, App.session, result, and_self]

/-- If there is none either, the query is refused and nothing is kept. -/
theorem answer_failed (failed : app.configured query.place = .error fault) :
    (app.answer {} query).state = {} ∧
      (app.answer {} query).response = (query.refused (.session fault)).result := by
  have result : (app.configure query.place).result = .error fault := failed
  simp only [App.answer, App.session, result, and_self]

/-! ## One request -/

section

variable {Request Response : Type} {wire : Wire Request Response} {request : Request} {requests : List Request}

/-- The response to a request that a service gets as its first and only one. -/
def App.alone (wire : Wire Request Response) (app : App) (request : Request) : Response :=
  (app.handle wire {} request).response

theorem handle_unasked {response : Response} (unasked : wire.read request = .error response) (state : State) :
    (app.handle wire state request).state = state ∧ (app.handle wire state request).response = response := by
  simp only [App.handle, unasked, and_self]

theorem handle_asked (asks : wire.read request = .ok query) (state : State) :
    (app.handle wire state request).state = (app.answer state query).state ∧
      (app.handle wire state request).response = wire.write request (app.answer state query).response := by
  simp only [App.handle, asks, and_self]

/-- The request asks a hook at a place. -/
def Wire.AsksAt (wire : Wire Request Response) (request : Request) (place : Place) : Prop :=
  ∃ query, wire.read request = .ok query ∧ query.place = place

/-- **The session after a request** is the one that was kept, or else one that the place of the request configures. -/
theorem handle_session (wire : Wire Request Response) (app : App) (state : State) (request : Request) :
    (app.handle wire state request).state = state ∧
        (state.session = none → ∀ place, wire.AsksAt request place → ∃ fault, app.configured place = .error fault) ∨
      state.session = none ∧ ∃ place session, wire.AsksAt request place ∧ app.configured place = .ok session ∧
        (app.handle wire state request).state = ⟨some session⟩ := by
  cases asks : wire.read request with
  | error response =>
      refine .inl ⟨(handle_unasked asks state).1, ?_⟩
      rintro - place ⟨query, asks', -⟩
      cases asks.symm.trans asks'
  | ok query =>
      rw [(handle_asked asks state).1]
      rcases state with ⟨_ | session⟩
      · cases made : app.configured query.place with
        | error fault =>
            refine .inl ⟨(answer_failed made).1, ?_⟩
            rintro - place ⟨query', asks', rfl⟩
            obtain rfl := Except.ok.inj (asks.symm.trans asks')
            exact ⟨fault, made⟩
        | ok session => exact .inr ⟨rfl, query.place, session, ⟨query, asks, rfl⟩, made, (answer_made made).1⟩
      · exact .inl ⟨rfl, fun none_ => by cases none_⟩

theorem handle_keeps (wire : Wire Request Response) (keeps : app.Keeps state) (request : Request) :
    app.Keeps (app.handle wire state request).state := by
  rcases handle_session wire app state request with ⟨same, -⟩ | ⟨-, place, session, -, made, same⟩
  · rw [same]
    exact keeps
  · rw [same]
    exact keeps_some made

/-- **Where the place of a request configures a session, the one that is kept changes nothing.** -/
theorem handle_alone (keeps : app.Keeps state)
    (configures : ∀ place, wire.AsksAt request place → ∃ session, app.configured place = .ok session) :
    (app.handle wire state request).response = app.alone wire request := by
  cases asks : wire.read request with
  | error response => rw [App.alone, (handle_unasked asks state).2, (handle_unasked asks {}).2]
  | ok query =>
      obtain ⟨session, made⟩ := configures query.place ⟨query, asks, rfl⟩
      rw [App.alone, (handle_asked asks state).2, (handle_asked asks {}).2, (answer_made made).2]
      rcases state with ⟨_ | session'⟩
      · rw [(answer_made made).2]
      · obtain ⟨place, made'⟩ := keeps session' rfl
        rw [(answer_kept app session' query).2, configured_agree made made']

/-! ## Requests in any order -/

/-- The responses to requests that are answered in order. -/
def App.responses (wire : Wire Request Response) (app : App) (state : State) (requests : List Request) :
    List Response :=
  (app.handleAll wire state requests).map (·.response)

/-- The state that requests leave. -/
def App.after (wire : Wire Request Response) (app : App) (state : State) : List Request → State
  | [] => state
  | request :: rest => app.after wire (app.handle wire state request).state rest

/-- One of the requests asks a hook at a place. -/
def Wire.AsksOf (wire : Wire Request Response) (requests : List Request) (place : Place) : Prop :=
  ∃ request ∈ requests, wire.AsksAt request place

/-- Configuring a session succeeds at all places that the requests ask at, or at none. -/
def App.Even (wire : Wire Request Response) (app : App) (requests : List Request) : Prop :=
  (∀ place, wire.AsksOf requests place → ∃ session, app.configured place = .ok session) ∨
    ∀ place, wire.AsksOf requests place → ∃ fault, app.configured place = .error fault

theorem responses_append (state : State) (before requests : List Request) :
    app.responses wire state (before ++ requests) =
      app.responses wire state before ++ app.responses wire (app.after wire state before) requests := by
  induction before generalizing state with
  | nil => rfl
  | cons request rest ih => exact congrArg (_ :: ·) (ih (app.handle wire state request).state)

/-- **The session after requests** is the one that was kept, or else one that a place of theirs configures; there is
none only if all their places fail. -/
theorem after_session (wire : Wire Request Response) (app : App) (state : State) (requests : List Request) :
    app.after wire state requests = state ∧
        (state.session = none → ∀ place, wire.AsksOf requests place → ∃ fault, app.configured place = .error fault) ∨
      state.session = none ∧ ∃ place session, wire.AsksOf requests place ∧ app.configured place = .ok session ∧
        app.after wire state requests = ⟨some session⟩ := by
  induction requests generalizing state with
  | nil =>
      refine .inl ⟨rfl, ?_⟩
      rintro - place ⟨request, member, -⟩
      cases member
  | cons request rest ih =>
      have later : ∀ {place}, wire.AsksOf rest place → wire.AsksOf (request :: rest) place :=
        fun ⟨request', member, asks⟩ => ⟨request', List.mem_cons_of_mem request member, asks⟩
      rcases handle_session wire app state request with
        ⟨same, fails⟩ | ⟨none_, place, session, asks, made, same⟩
      · rcases ih state with ⟨still, fails'⟩ | ⟨none_, place, session, asked, made, kept⟩
        · refine .inl ⟨by rw [App.after, same, still], ?_⟩
          rintro none_ place ⟨request', member, asks⟩
          rcases List.mem_cons.1 member with rfl | member
          · exact fails none_ place asks
          · exact fails' none_ place ⟨request', member, asks⟩
        · exact .inr ⟨none_, place, session, later asked, made, by rw [App.after, same, kept]⟩
      · refine .inr ⟨none_, place, session, ⟨request, List.mem_cons_self, asks⟩, made, ?_⟩
        rcases ih ⟨some session⟩ with ⟨still, -⟩ | ⟨none', -⟩
        · rw [App.after, same, still]
        · cases none'

/-- Where all places configure a session, each response is the one alone. -/
theorem responses_configured (keeps : app.Keeps state)
    (configures : ∀ place, wire.AsksOf requests place → ∃ session, app.configured place = .ok session) :
    app.responses wire state requests = requests.map (app.alone wire) := by
  induction requests generalizing state with
  | nil => rfl
  | cons request rest ih =>
      have first := handle_alone keeps fun place asks => configures place ⟨request, List.mem_cons_self, asks⟩
      have others := ih (handle_keeps wire keeps request) fun place ⟨request', member, asks⟩ =>
        configures place ⟨request', List.mem_cons_of_mem request member, asks⟩
      rw [List.map_cons, ← first, ← others]
      rfl

/-- Where none does, nothing is kept, so each response is the one alone too. -/
theorem responses_failed
    (fails : ∀ place, wire.AsksOf requests place → ∃ fault, app.configured place = .error fault) :
    app.responses wire {} requests = requests.map (app.alone wire) := by
  induction requests with
  | nil => rfl
  | cons request rest ih =>
      have kept : (app.handle wire {} request).state = {} := by
        rcases handle_session wire app {} request with ⟨same, -⟩ | ⟨-, place, session, asks, made, -⟩
        · exact same
        · obtain ⟨fault, failed⟩ := fails place ⟨request, List.mem_cons_self, asks⟩
          cases made.symm.trans failed
      have others := ih fun place ⟨request', member, asks⟩ =>
        fails place ⟨request', List.mem_cons_of_mem request member, asks⟩
      rw [List.map_cons, ← others, App.alone]
      change _ :: app.responses wire (app.handle wire {} request).state rest = _
      rw [kept]

theorem even_of_perm {requests' : List Request} (perm : requests'.Perm requests) (even : app.Even wire requests) :
    app.Even wire requests' := by
  have narrow : ∀ {place}, wire.AsksOf requests' place → wire.AsksOf requests place :=
    fun ⟨request, member, asks⟩ => ⟨request, perm.subset member, asks⟩
  exact even.imp (fun configures place asked => configures place (narrow asked))
    fun fails place asked => fails place (narrow asked)

theorem responses_even (even : app.Even wire requests) :
    app.responses wire {} requests = requests.map (app.alone wire) :=
  even.elim (responses_configured (keeps_fresh app)) responses_failed

/-- What the responses of a service depend on. -/
structure Orderly (wire : Wire Request Response) (app : App) : Prop where
  /-- There is one session, wherever it is configured. -/
  one : ∀ place place' session session', app.configured place = .ok session →
    app.configured place' = .ok session' → session' = session
  /-- Requests leave a session behind if one of their places configures it, and no other. -/
  kept : ∀ requests session, (app.after wire {} requests).session = some session ↔
    ∃ place, wire.AsksOf requests place ∧ app.configured place = .ok session
  /-- Once there is a session, it answers each query. -/
  answered : ∀ before request query session, (app.after wire {} before).session = some session →
    wire.read request = .ok query → app.responses wire {} (before ++ [request]) =
      app.responses wire {} before ++ [wire.write request (query.answered app.files session).result]
  /-- As long as there is none, a request is answered as it is alone. -/
  unanswered : ∀ before request, (app.after wire {} before).session = none →
    app.responses wire {} (before ++ [request]) = app.responses wire {} before ++ [app.alone wire request]
  /-- Alone, a query is answered by the session that its place configures, or refused with the reason why it does
  not, in the way of its hook. -/
  alone : ∀ request query, wire.read request = .ok query →
    (∀ session, app.configured query.place = .ok session →
      app.alone wire request = wire.write request (query.answered app.files session).result) ∧
    ∀ fault, app.configured query.place = .error fault →
      app.alone wire request = wire.write request (query.refused (.session fault)).result
  /-- If all places of the requests configure a session, or none does, then each request is answered as it is alone,
  and so in every order. -/
  even : ∀ requests, app.Even wire requests → app.responses wire {} requests = requests.map (app.alone wire) ∧
    ∀ requests' : List Request, requests'.Perm requests →
      (requests'.zip (app.responses wire {} requests')).Perm (requests.zip (app.responses wire {} requests))
  /-- After a start that configures the session, too, if the places of the requests do so as well. -/
  started : ∀ state, app.start.result = .ok state → ∀ requests,
    (∀ place, wire.AsksOf requests place → ∃ session, app.configured place = .ok session) →
      app.responses wire state requests = requests.map (app.alone wire)

/-- **What the responses of a service depend on**, whatever its settings, its files and its requests are. -/
theorem responses_orderly (wire : Wire Request Response) (app : App) : Orderly wire app where
  one := fun _ _ _ _ => configured_agree
  kept := by
    intro requests session
    rcases after_session wire app {} requests with
      ⟨same, fails⟩ | ⟨-, place, session', asked, made, same⟩
    · rw [same]
      constructor
      · rintro ⟨⟩
      · rintro ⟨place, asked, made⟩
        obtain ⟨fault, failed⟩ := fails rfl place asked
        cases made.symm.trans failed
    · rw [same, Option.some.injEq]
      constructor
      · rintro rfl
        exact ⟨place, asked, made⟩
      · rintro ⟨place', -, made'⟩
        exact configured_agree made' made
  answered := by
    intro before request query session kept asks
    rw [responses_append, show app.after wire {} before = ⟨some session⟩ from congrArg State.mk kept]
    exact congrArg (_ ++ [·]) (handle_asked asks ⟨some session⟩).2
  unanswered := by
    intro before request none_
    rw [responses_append, show app.after wire {} before = {} from congrArg State.mk none_]
    rfl
  alone := by
    intro request query asks
    rw [App.alone, (handle_asked asks {}).2]
    constructor
    · intro session made
      rw [(answer_made made).2]
    · intro fault failed
      rw [(answer_failed failed).2]
  even := by
    intro requests even
    refine ⟨responses_even even, fun requests' perm => ?_⟩
    rw [responses_even even, responses_even (even_of_perm perm even), ← List.map_prod_left_eq_zip,
      ← List.map_prod_left_eq_zip]
    exact perm.map _
  started := fun _ started _ => responses_configured (keeps_started started)

end

/-! ## Services that are even, and one that is not -/

/-- What configuring gives at a place once the settings are read: all but the gate is the same everywhere. -/
theorem configured_eq (app : App) (place : Place) {mode : Mode} {apply : ApplyCondition} {filters : FilterSet}
    (modes : Mode.parse (some app.settings.mode) = .ok mode) (applies : app.settings.applyCondition = .ok apply)
    (reads : FilterSet.ofLists mode (app.settings.options apply).lists app.compile = .ok filters) :
    app.configured place =
      ((Gate.evaluate (app.room place) app.files app.settings.projectRoot app.settings.fixedVersion
        Settings.dependencyName).result.mapError .gate).map fun gate =>
          ⟨mode, apply, gate, filters, Overlay.ofDirectory app.files app.settings.overlayPrefix
            app.settings.overlayDirectory⟩ := by
  simp only [App.configured, App.configure, Session.ofSettings, modes, applies, Logged.andThen, Session.configure,
    reads, Logged.map]
  have options : Gate.evaluate (app.room place) app.files app.settings.projectRoot
      (app.settings.options apply).threshold (app.settings.options apply).package =
        Gate.evaluate (app.room place) app.files app.settings.projectRoot app.settings.fixedVersion
          Settings.dependencyName := rfl
  rw [options]
  cases (Gate.evaluate (app.room place) app.files app.settings.projectRoot app.settings.fixedVersion
    Settings.dependencyName).result <;> rfl

/-- Requests that are queries, with the outcome for a response. -/
def plain : Wire Query Outcome where
  read := .ok
  write _ outcome := outcome

/-- The room that is left in the loop that answers a health check, and the one in the threads that run the hooks. -/
def roomOf : Place → Room
  | .start | .health => ⟨964, 964⟩
  | .resolve | .load | .transform => ⟨984, 984⟩

/-- A service with this mode and all else as it is by default. -/
def serviceOf (mode : String) (files : FileSystem) : App where
  settings := {
    mode := mode.toList
    apply := "always".toList
    projectRoot := "/p".toList
    fixedVersion := "2.40.4".toList
    overlayPrefix := "virtual:fixNaiveuiIcon-path:".toList
    overlayDirectory := "/p/virtual".toList
    buildReplaceable := Settings.defaultBuildReplaceable
    buildExportDefault := Settings.defaultBuildExportDefault
    serve := Settings.defaultServe
    exclude := []
    host := "127.0.0.1".toList
    tcpPort := 8890
    logLevel := "INFO".toList }
  files := files
  room := roomOf

/-- An installed package with these bytes for a manifest. -/
def installed (bytes : List UInt8) : FileSystem where
  cwd := "/p".toList
  entries := [(["p".toList], .directory), (["p".toList, "node_modules".toList], .directory),
    (["p".toList, "node_modules".toList, "naive-ui".toList], .directory),
    (["p".toList, "node_modules".toList, "naive-ui".toList, "package.json".toList], .file bytes)]

/-- If the health check cannot configure a session and another hook can, it is told otherwise after that hook. -/
theorem responses_health (failed : app.configured (Query.place .health) = .error fault) {id : Text}
    (made : app.configured (Query.place (.resolve id)) = .ok session) :
    app.responses plain {} [.health, .resolve id, .health] =
      [.value (unhealthy (.session fault)), (Query.answered app.files session (.resolve id)).result,
        .value (healthy session)] := by
  obtain ⟨still, refused⟩ := answer_failed failed
  obtain ⟨kept, answered⟩ := answer_made made
  have healthy_ : (app.answer ⟨some session⟩ .health).response = .value (healthy session) :=
    (answer_kept app session .health).2
  simp only [App.responses, App.handleAll, App.handle, plain, still, kept, List.map_cons, List.map_nil, refused,
    answered, healthy_]
  rfl

/-- The manifest is found, at every place. -/
theorem installed_found (bytes : List UInt8) (place : Place) :
    Version.realDirectory (roomOf place) (installed bytes) "/p".toList = .ok ⟨1, ["p".toList]⟩ ∧
      (installed bytes).stat "/p".toList = .ok .directory ∧
      Version.manifestFrom (installed bytes) ⟨1, ["p".toList]⟩ Settings.dependencyName = some bytes := by
  refine ⟨?_, ?_, ?_⟩
  · cases place <;> cbv
  · cbv
  · cbv

/-- The filters of a build can be made, so it is only the gate that can fail. -/
theorem serviceOf_configured (files : FileSystem) (place : Place) : ∃ session : Gate → Session,
    (serviceOf "build" files).configured place =
      ((Gate.evaluate (roomOf place) files "/p".toList "2.40.4".toList Settings.dependencyName).result.mapError
        .gate).map session := by
  have settings : (serviceOf "build" files).settings = (serviceOf "build" ⟨[], []⟩).settings := rfl
  have filters : (FilterSet.ofLists .build
      ((serviceOf "build" ⟨[], []⟩).settings.options .always).lists).toOption.isSome = true := by decide +kernel
  rw [← settings] at filters
  cases reads : FilterSet.ofLists .build ((serviceOf "build" files).settings.options .always).lists with
  | error fault => simp [reads, Except.toOption] at filters
  | ok filters => exact ⟨_, configured_eq (serviceOf "build" files) place (by rfl) (by rfl) reads⟩

section

variable {n : Nat}

theorem installed_straight (bytes : List UInt8) :
    (installed bytes).stat (Path.toText ⟨1, ["p".toList]⟩) ≠ .error .tooManyLinks := by
  rw [show Path.toText ⟨1, ["p".toList]⟩ = "/p".toList from rfl, (installed_found bytes .health).2.1]
  rintro ⟨⟩

/-- With more opening brackets in the manifest than there is room for no session can be configured. -/
theorem serviceOf_deep (deep : (roomOf place).values < n) :
    (serviceOf "build" (installed (List.replicate n 0x5B))).configured place =
      .error (.gate (.resolve (.valueTooDeep .array))) := by
  obtain ⟨session, configured⟩ := serviceOf_configured (installed (List.replicate n 0x5B)) place
  obtain ⟨real, -, found⟩ := installed_found (List.replicate n 0x5B) place
  rw [configured, Gate.evaluate, Version.resolve_deep deep real (installed_straight _) found]
  rfl

/-- With no more than that one can. -/
theorem serviceOf_shallow (shallow : n ≤ (roomOf place).values) :
    ∃ session, (serviceOf "build" (installed (List.replicate n 0x5B))).configured place = .ok session := by
  obtain ⟨session, configured⟩ := serviceOf_configured (installed (List.replicate n 0x5B)) place
  obtain ⟨real, -, found⟩ := installed_found (List.replicate n 0x5B) place
  rw [configured, Version.evaluate_unknown (Version.resolve_unclosed shallow real (installed_straight _) found)]
  exact ⟨_, rfl⟩

end

/-- A service whose mode is none has no session anywhere. -/
theorem serviceOf_other (files : FileSystem) (place : Place) :
    (serviceOf "other" files).configured place = .error (.mode ⟨some "other".toList⟩) := by
  have unnamed : Mode.parse (some "other".toList) = .error ⟨some "other".toList⟩ := by decide +kernel
  have unnamed' : Mode.parse (some (serviceOf "other" files).settings.mode) = .error ⟨some "other".toList⟩ := unnamed
  rw [App.configured, App.configure, Session.ofSettings, unnamed']
  rfl

/-- One service that starts, and one whose mode is none. -/
theorem responses_orderly_modes :
    (∃ state, (serviceOf "build" (installed [])).start.result = .ok state ∧
        (serviceOf "build" (installed [])).responses plain state [.load "/p/virtual/x.js".toList, .health] =
          [.load "/p/virtual/x.js".toList, .health].map ((serviceOf "build" (installed [])).alone plain)) ∧
      (serviceOf "other" (installed [])).responses plain {} [.load "/p/virtual/x.js".toList, .health] =
        [.load "/p/virtual/x.js".toList, .health].map ((serviceOf "other" (installed [])).alone plain) := by
  have configures : ∀ place, ∃ session, (serviceOf "build" (installed [])).configured place = .ok session :=
    fun place => @serviceOf_shallow place 0 (Nat.zero_le _)
  obtain ⟨session, made⟩ := configures .start
  have started : (serviceOf "build" (installed [])).start.result = .ok ⟨some session⟩ := by
    rw [start_result, made]
    rfl
  refine ⟨⟨_, started, ?_⟩, ?_⟩
  · exact (responses_orderly plain (serviceOf "build" (installed []))).started _ started _
      fun place _ => configures place
  · exact ((responses_orderly plain (serviceOf "other" (installed []))).even _
      (.inr fun place _ => ⟨_, serviceOf_other _ place⟩)).1

theorem unhealthy_ne_healthy (fault : Fault) (session : Session) : unhealthy fault ≠ healthy session := by
  intro same
  have status := congrArg (·.member? "status".toList) same
  have told : message "error" = message "healthy" := Option.some.inj status
  simp [message] at told

/-- With 979 opening brackets in the manifest, what is told of the health depends on what was asked before. -/
theorem responses_uneven : ∃ fault told session,
    (serviceOf "build" (installed (List.replicate 979 0x5B))).responses plain {}
        [.health, .resolve "x".toList, .health] =
      [.value (unhealthy (.session fault)), told, .value (healthy session)] ∧
    Outcome.value (unhealthy (.session fault)) ≠ .value (healthy session) := by
  have failed : (serviceOf "build" (installed (List.replicate 979 0x5B))).configured (Query.place .health) =
      .error (.gate (.resolve (.valueTooDeep .array))) := @serviceOf_deep (Query.place .health) 979 (by decide)
  have made : ∃ session, (serviceOf "build" (installed (List.replicate 979 0x5B))).configured
      (Query.place (.resolve "x".toList)) = .ok session :=
    @serviceOf_shallow (Query.place (.resolve "x".toList)) 979 (by decide)
  obtain ⟨session, made⟩ := made
  refine ⟨_, _, session, responses_health failed made, ?_⟩
  exact fun same => unhealthy_ne_healthy _ _ (Outcome.value.inj same)

end Service

end Graft
