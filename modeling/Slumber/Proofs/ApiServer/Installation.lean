import Mathlib.Data.List.Nodup
import Slumber.Proofs.ApiServer.Discovery
import Slumber.Proofs.Cluster.Activities

/-!
# Types that are installed later

The types that a server serves may change while a connection to it is in use. A call that wants a
type first looks it up in what is known, and asks the server once if it is not there; all else that
it asks for are objects. So it reports a type as unknown only if the server does not serve it then.
A name is looked up among the recommended versions of the groups only: a type that is served in
another version is found by its kind, but not by a name.

* `ServedGroup.mem_recommendedTypes_iff` — the types of the recommended version;
* `Wanted.IsServed`, `Wanted.find?_isSome_iff` — what is wanted is served if it is found;
* `Connection.OnlyRequests` — operations that ask for objects only;
* `Connection.LooksUpFirst.spec` — what an operation does that looks a type up first;
* `Connection.Call.looksUpFirst_run` — each call is such an operation;
* `Connection.IsInformed`, `Connection.isInformed_connect` — what is known was served at some time,
  from the start of a connection on;
* `Connection.session` — calls and changes of what is served, one after the other;
* `installed_types_found` — the main theorem.
-/

namespace Slumber

/-! ### The types of a group -/

namespace ServedGroup

variable {g : ServedGroup} {t : ResourceType} {version : String}

theorem mem_types_iff : t ∈ g.types ↔ ∃ v ∈ g.versions,
    t ∈ (v.resources.filter ServedResource.isType).map (·.type g.name v.version) :=
  List.mem_flatMap

theorem kind_of_mem_types (ht : t ∈ g.types) :
    t.kind.group = g.name ∧ ∃ v ∈ g.versions, t.kind.version = v.version := by
  obtain ⟨v, hv, ht⟩ := mem_types_iff.1 ht
  obtain ⟨r, -, rfl⟩ := List.mem_map.1 ht
  exact ⟨rfl, v, hv, rfl⟩

/-- The types of a version are those of the group that are served in it. -/
theorem mem_typesIn_iff (hdistinct : (g.versions.map (·.version)).Nodup) :
    t ∈ g.typesIn version ↔ t ∈ g.types ∧ t.kind.version = version := by
  unfold typesIn
  cases hfind : g.versions.find? (·.version = version) with
  | none =>
      refine iff_of_false List.not_mem_nil ?_
      rintro ⟨ht, rfl⟩
      obtain ⟨-, v, hv, hversion⟩ := kind_of_mem_types ht
      exact List.find?_eq_none.1 hfind v hv (decide_eq_true hversion.symm)
  | some v =>
      have hv := List.mem_of_find?_eq_some hfind
      have hversion := List.find?_some hfind
      obtain rfl : v.version = version := of_decide_eq_true hversion
      rw [mem_types_iff]
      constructor
      · intro ht
        refine ⟨⟨v, hv, ht⟩, ?_⟩
        obtain ⟨r, -, rfl⟩ := List.mem_map.1 ht
        rfl
      · rintro ⟨⟨w, hw, ht⟩, hversion⟩
        obtain ⟨r, hr, rfl⟩ := List.mem_map.1 ht
        obtain rfl : w = v := List.inj_on_of_nodup_map hdistinct hw hv hversion
        exact ht

theorem mem_recommendedTypes_iff (hdistinct : (g.versions.map (·.version)).Nodup) :
    t ∈ g.recommendedTypes ↔ t ∈ g.types ∧ g.recommended? = some t.kind.version := by
  unfold recommendedTypes
  cases g.recommended? with
  | none => simp
  | some version => simp [mem_typesIn_iff hdistinct, eq_comm]

end ServedGroup

/-! ### What is wanted -/

/-- What a call wants to know the type of: a name that a user gives, or a kind. -/
inductive Wanted where
  | named (name : String)
  | ofKind (kind : ObjectKind)

namespace Wanted

/-- The text under which it is reported as unknown. -/
def text : Wanted → String
  | named name => name
  | ofKind kind => kind.text

/-- Looks it up in what is known. -/
def find? : Wanted → Discovery → Option ResourceType
  | named name, d => d.findType? name
  | ofKind kind, d => d.typeOf? kind

/-- It means a type of a group. A name means types of the recommended version only. -/
def Means : Wanted → ServedGroup → ResourceType → Prop
  | named name, g, t => g.recommended? = some t.kind.version ∧ t.isNamedBy name = true
  | ofKind kind, _, t => t.kind = kind

/-- One of the groups has a type that it means. -/
def IsServed (w : Wanted) (groups : List ServedGroup) : Prop :=
  ∃ g ∈ groups, ∃ t ∈ g.types, w.Means g t

/-- In what is learnt of all groups is found what they serve. -/
theorem find?_isSome_iff {groups : List ServedGroup} (h : Discovery.TellsAll groups) (w : Wanted) :
    (w.find? (.ofGroups groups)).isSome = true ↔ w.IsServed groups := by
  cases w with
  | named name =>
      show ((Discovery.ofGroups groups).findType? name).isSome = true ↔ _
      rw [Discovery.findType?_eq, List.find?_isSome]
      constructor
      · rintro ⟨t, ht, hnamed⟩
        obtain ⟨g, hg, ht⟩ := List.mem_flatMap.1 ht
        rw [h.mem_values_iff] at hg
        obtain ⟨ht, hrecommended⟩ :=
          (ServedGroup.mem_recommendedTypes_iff (h.distinctVersions g hg)).1 ht
        exact ⟨g, hg, t, ht, hrecommended, hnamed⟩
      · rintro ⟨g, hg, t, ht, hrecommended, hnamed⟩
        refine ⟨t, List.mem_flatMap.2 ⟨g, h.mem_values_iff.2 hg, ?_⟩, hnamed⟩
        exact (ServedGroup.mem_recommendedTypes_iff (h.distinctVersions g hg)).2 ⟨ht, hrecommended⟩
  | ofKind kind =>
      show ((Discovery.ofGroups groups).typeOf? kind).isSome = true ↔ _
      rw [Option.isSome_iff_exists]
      constructor
      · rintro ⟨t, hfound⟩
        obtain ⟨g, hg, hfound⟩ := Option.bind_eq_some_iff.1 hfound
        obtain ⟨hg, hname⟩ := h.find?_eq_some_iff.1 hg
        obtain ⟨ht, hversion⟩ := (ServedGroup.mem_typesIn_iff (h.distinctVersions g hg)).1
          (List.mem_of_find?_eq_some hfound)
        have hgroup := (ServedGroup.kind_of_mem_types ht).1.trans hname
        have hkind := List.find?_some hfound
        rw [decide_eq_true_eq] at hkind
        refine ⟨g, hg, t, ht, ?_⟩
        show t.kind = kind
        cases hk : t.kind
        simp_all
      · rintro ⟨g, hg, t, ht, rfl : t.kind = kind⟩
        have hgroup : (Discovery.ofGroups groups).find? t.kind.group = some g :=
          h.find?_eq_some_iff.2 ⟨hg, (ServedGroup.kind_of_mem_types ht).1.symm⟩
        have hin := (ServedGroup.mem_typesIn_iff (h.distinctVersions g hg)).2 ⟨ht, rfl⟩
        have hsome : ((g.typesIn t.kind.version).find? (·.kind.kind = t.kind.kind)).isSome = true :=
          List.find?_isSome.2 ⟨t, hin, decide_eq_true rfl⟩
        obtain ⟨t', hfound⟩ := Option.isSome_iff_exists.1 hsome
        exact ⟨t', Option.bind_eq_some_iff.2 ⟨g, hgroup, hfound⟩⟩

end Wanted

/-! ### Asking for objects -/

namespace Connection

variable {α β : Type}

/-- The connection after these requests. -/
def requested (conn : Connection) (requests : List Request) : Connection :=
  { conn with server :=
    { conn.server with asked := conn.server.asked ++ requests.map .request } }

theorem requested_nil (conn : Connection) : conn.requested [] = conn := by
  simp only [requested, List.map_nil, List.append_nil]

theorem requested_requested (conn : Connection) (requests requests' : List Request) :
    (conn.requested requests).requested requests' = conn.requested (requests ++ requests') := by
  simp only [requested, List.map_append, List.append_assoc]

/-- The operation asks the server for objects only, and does not take any type for unknown. -/
def OnlyRequests (act : StateM Connection (Reply α)) : Prop :=
  ∀ conn, (∀ name, (act conn).1 ≠ .error (.unknownType name))
    ∧ ∃ requests, (act conn).2 = conn.requested requests

namespace OnlyRequests

theorem of_reply {reply : Reply α} (h : ∀ name, reply ≠ .error (.unknownType name)) :
    OnlyRequests (pure reply) :=
  fun conn => ⟨h, [], conn.requested_nil.symm⟩

/-- One operation after the other. -/
theorem bind {act : StateM Connection (Reply α)} {next : Reply α → StateM Connection (Reply β)}
    (hact : OnlyRequests act)
    (hnext : ∀ reply, (∀ name, reply ≠ .error (.unknownType name)) → OnlyRequests (next reply)) :
    OnlyRequests (act >>= next) := by
  intro conn
  obtain ⟨hreply, requests, hafter⟩ := hact conn
  obtain ⟨hreply', requests', hafter'⟩ := hnext (act conn).1 hreply (act conn).2
  refine ⟨hreply', requests ++ requests', hafter'.trans ?_⟩
  rw [hafter, requested_requested]

theorem map_ne_unknownType {reply : Reply α} (h : ∀ name, reply ≠ .error (.unknownType name))
    (f : α → β) (name : String) : reply.map f ≠ .error (.unknownType name) := by
  intro hname
  cases reply with
  | error e => exact h name (congrArg Except.error (Except.error.inj hname))
  | ok a => cases hname

end OnlyRequests

theorem onlyRequests_request (method : Method) (target : String) (content : Option Content)
    (ofDocument? : Json → Option α) : OnlyRequests (request method target content ofDocument?) := by
  intro conn
  have hread : ∀ response : Response, ∀ name,
      response.read ofDocument? ≠ .error (.unknownType name) := by
    intro response name hname
    unfold Response.read at hname
    split at hname
    · cases hname
    · split at hname <;> cases hname
  unfold request
  cases Target.read? target with
  | none => exact OnlyRequests.of_reply (fun name h => by cases h) conn
  | some target => exact ⟨hread _, [⟨method, target, content⟩], rfl⟩

theorem onlyRequests_requestObject (method : Method) (path name ending : String)
    (content : Option Content) (ofDocument? : Json → Option α) :
    OnlyRequests (requestObject method path name ending content ofDocument?) := by
  unfold requestObject
  split
  · exact .of_reply fun name h => by cases h
  · exact onlyRequests_request method _ content ofDocument?

theorem onlyRequests_find (namespaceName : String) (type : ResourceType) (name : String) :
    OnlyRequests (find namespaceName type name) := by
  refine .bind (onlyRequests_requestObject _ _ _ _ _ _) fun reply hreply => ?_
  split
  · exact .of_reply fun name h => by cases h
  · exact .of_reply hreply

/-- Looks up what is wanted and goes on with its type. -/
def withType (w : Wanted) (rest : ResourceType → StateM Connection (Reply α)) :
    StateM Connection (Reply α) := do
  match ← lookUp w.find? w.text with
  | .error e => return .error e
  | .ok t => rest t

/-- The operation looks up what is wanted, and then asks for objects only. -/
def LooksUpFirst (w : Wanted) (act : StateM Connection (Reply α)) : Prop :=
  ∃ rest : ResourceType → StateM Connection (Reply α),
    (∀ t, OnlyRequests (rest t)) ∧ act = withType w rest

theorem looksUpFirst_resolveType (name : String) :
    LooksUpFirst (.named name) (resolveType name) := by
  refine ⟨fun t => pure (.ok t), fun t => .of_reply fun name h => (by cases h), ?_⟩
  refine (bind_pure (resolveType name)).symm.trans (bind_congr fun reply => ?_)
  cases reply <;> rfl

theorem looksUpFirst_get (namespaceName : String) (kind : ObjectKind) (name : String) :
    LooksUpFirst (.ofKind kind) (get namespaceName kind name) :=
  ⟨_, fun t => onlyRequests_find namespaceName t name, rfl⟩

theorem looksUpFirst_patch (namespaceName : String) (kind : ObjectKind) (name : String)
    (patch : Json) (flavour : PatchKind) :
    LooksUpFirst (.ofKind kind) (Connection.patch namespaceName kind name patch flavour) := by
  refine ⟨_, fun t => ?_, rfl⟩
  cases patchContent? patch flavour with
  | none => exact .of_reply fun name h => by cases h
  | some content => exact onlyRequests_requestObject _ _ _ _ _ _

theorem looksUpFirst_delete (namespaceName : String) (kind : ObjectKind) (name : String)
    (force : Bool) : LooksUpFirst (.ofKind kind) (delete namespaceName kind name force) := by
  refine ⟨_, fun t => (onlyRequests_find namespaceName t name).bind fun reply hreply => ?_, rfl⟩
  cases reply with
  | error e => exact .of_reply hreply
  | ok found =>
      refine (onlyRequests_requestObject _ _ _ _ _ _).bind fun reply hreply => ?_
      exact .of_reply (OnlyRequests.map_ne_unknownType hreply _)

theorem LooksUpFirst.map {w : Wanted} {act : StateM Connection (Reply α)}
    (hact : LooksUpFirst w act) (f : α → β) :
    LooksUpFirst w (do return (← act).map f) := by
  obtain ⟨rest, hrest, rfl⟩ := hact
  refine ⟨fun t => do return (← rest t).map f, fun t => ?_, ?_⟩
  · exact (hrest t).bind fun reply hreply => .of_reply (OnlyRequests.map_ne_unknownType hreply f)
  · refine (bind_assoc _ _ _).trans (bind_congr fun reply => ?_)
    cases reply <;> rfl

/-- The connection once it is known whether there is what is wanted. -/
def lookedUp (w : Wanted) (conn : Connection) : Connection :=
  bif (w.find? conn.known).isSome then conn else conn.renewed

section

variable {conn : Connection} {w : Wanted}

theorem lookUp_eq (hserver : Discovery.TellsAll conn.server.groups) :
    lookUp w.find? w.text conn
      = (typeReply w.text (w.find? (conn.lookedUp w).known), conn.lookedUp w) := by
  unfold lookedUp
  cases hfound : w.find? conn.known with
  | some t =>
      rw [lookUp_of_known hfound, Option.isSome_some, cond_true, hfound]
      rfl
  | none => exact lookUp_of_unknown hserver hfound

/-- What is found in the end was known before, or is served now. -/
theorem find?_lookedUp_eq_none_iff (hserver : Discovery.TellsAll conn.server.groups) :
    w.find? (conn.lookedUp w).known = none
      ↔ w.find? conn.known = none ∧ ¬ w.IsServed conn.server.groups := by
  unfold lookedUp
  cases hfound : w.find? conn.known with
  | some t => simp [hfound]
  | none =>
      rw [← w.find?_isSome_iff hserver, Option.not_isSome_iff_eq_none]
      exact (and_iff_right rfl).symm

/-- The server is asked just when what is wanted is not known. -/
theorem asked_lookedUp (w : Wanted) (conn : Connection) : (conn.lookedUp w).server.asked
    = conn.server.asked ++ bif (w.find? conn.known).isSome then [] else [.discovery] := by
  unfold lookedUp
  cases (w.find? conn.known).isSome with
  | true => exact (List.append_nil _).symm
  | false => rfl

/-- **One operation.**  A type is reported as unknown just when it was not known before and is not
served now. What follows the look-up are requests. -/
theorem LooksUpFirst.spec {act : StateM Connection (Reply α)} (hact : LooksUpFirst w act)
    (hserver : Discovery.TellsAll conn.server.groups) :
    (∀ name, (act conn).1 = .error (.unknownType name)
      ↔ name = w.text ∧ w.find? conn.known = none ∧ ¬ w.IsServed conn.server.groups)
    ∧ ∃ requests, (act conn).2 = (conn.lookedUp w).requested requests := by
  obtain ⟨rest, hrest, rfl⟩ := hact
  have hnone := find?_lookedUp_eq_none_iff (w := w) hserver
  unfold withType
  rw [bind_apply, lookUp_eq hserver]
  cases hfound : w.find? (conn.lookedUp w).known with
  | some t =>
      obtain ⟨hreply, hafter⟩ := hrest t (conn.lookedUp w)
      refine ⟨fun name => iff_of_false (hreply name) fun h => ?_, hafter⟩
      rw [hnone.2 h.2] at hfound
      cases hfound
  | none =>
      refine ⟨fun name => ⟨?_, ?_⟩, [], (requested_nil _).symm⟩
      · rintro ⟨⟩
        exact ⟨rfl, hnone.1 hfound⟩
      · rintro ⟨rfl, -⟩
        rfl

end

/-! ### What is remembered -/

/-- The server tells all that it serves, and the connection knows what it served at some time. -/
structure IsInformed (conn : Connection) : Prop where
  tells : Discovery.TellsAll conn.server.groups
  remembers : ∃ learnt, Discovery.TellsAll learnt ∧ conn.known = .ofGroups learnt

theorem isInformed_connect {s : Server} (hs : Discovery.TellsAll s.groups) :
    ∃ conn, connect s = (.ok conn, conn.server) ∧ conn.IsInformed := by
  refine ⟨⟨{ s with asked := s.asked ++ [.discovery] }, .ofGroups s.groups⟩, ?_, hs, s.groups, hs,
    rfl⟩
  unfold connect
  rw [Server.discover_eq hs]

theorem IsInformed.lookedUp {conn : Connection} (h : conn.IsInformed) (w : Wanted) :
    (conn.lookedUp w).IsInformed := by
  unfold Connection.lookedUp
  cases (w.find? conn.known).isSome with
  | true => exact h
  | false => exact ⟨h.tells, conn.server.groups, h.tells, rfl⟩

/-! ### Calls -/

/-- A call that wants a type. -/
inductive Call where
  | resolveType (name : String)
  | get (namespaceName : String) (kind : ObjectKind) (name : String)
  | patch (namespaceName : String) (kind : ObjectKind) (name : String) (patch : Json)
      (flavour : PatchKind)
  | delete (namespaceName : String) (kind : ObjectKind) (name : String) (force : Bool)

namespace Call

/-- What it wants the type of. -/
def wanted : Call → Wanted
  | resolveType name => .named name
  | get _ kind _ | .patch _ kind _ _ _ | delete _ kind _ _ => .ofKind kind

/-- Makes the call. The reply holds a type or an object. -/
def run : Call → StateM Connection (Reply (ResourceType ⊕ Manifest))
  | resolveType name => do return (← ResourceClient.resolveType name).map .inl
  | get ns kind name => do return (← ResourceClient.get ns kind name).map .inr
  | .patch ns kind name change flavour => do
    return (← ResourceClient.patch ns kind name change flavour).map .inr
  | delete ns kind name force => do return (← ResourceClient.delete ns kind name force).map .inr

theorem looksUpFirst_run (c : Call) : LooksUpFirst c.wanted c.run := by
  cases c with
  | resolveType name => exact (looksUpFirst_resolveType name).map Sum.inl
  | get ns kind name => exact (looksUpFirst_get ns kind name).map Sum.inr
  | patch ns kind name change flavour =>
      exact (looksUpFirst_patch ns kind name change flavour).map Sum.inr
  | delete ns kind name force => exact (looksUpFirst_delete ns kind name force).map Sum.inr

end Call

/-! ### Sessions -/

/-- Something that happens: the server serves and answers otherwise from now on, or a call is
made. -/
inductive Event where
  | change (groups : List ServedGroup) (routes : List Route)
  | call (c : Call)

/-- A server that has changed still tells all that it serves. -/
def Event.TellsAll : Event → Prop
  | change groups _ => Discovery.TellsAll groups
  | call _ => True

/-- A call, the connection as it was then, the reply, and the connection after it. -/
structure Exchange where
  call : Call
  before : Connection
  reply : Reply (ResourceType ⊕ Manifest)
  after : Connection

/-- What the call wants was known before. -/
def Exchange.isKnown (x : Exchange) : Bool :=
  (x.call.wanted.find? x.before.known).isSome

/-- The connection when its server has changed. -/
def served (conn : Connection) (groups : List ServedGroup) (routes : List Route) : Connection :=
  { conn with server := { conn.server with groups, routes } }

/-- What happens in turn at a connection: the calls that are made, and how it is in the end. A call
learns what is served at one moment only, so each change falls before or after it. -/
def session : List Event → StateM Connection (List Exchange)
  | [], conn => ([], conn)
  | .change groups routes :: events, conn => session events (conn.served groups routes)
  | .call c :: events, conn =>
    let (reply, after) := c.run conn
    let (exchanges, last) := session events after
    (⟨c, conn, reply, after⟩ :: exchanges, last)

variable {conn : Connection} {events : List Event}

theorem IsInformed.served (h : conn.IsInformed) {groups : List ServedGroup}
    (hgroups : Discovery.TellsAll groups) (routes : List Route) :
    (conn.served groups routes).IsInformed :=
  ⟨hgroups, h.remembers⟩

theorem IsInformed.run (h : conn.IsInformed) (c : Call) : (c.run conn).2.IsInformed := by
  obtain ⟨-, requests, hafter⟩ := c.looksUpFirst_run.spec h.tells
  have hlooked := h.lookedUp c.wanted
  rw [hafter]
  exact ⟨hlooked.tells, hlooked.remembers⟩

/-- Each call of a session is made at a connection that is informed. -/
theorem isInformed_of_mem_session (hconn : conn.IsInformed)
    (hevents : ∀ event ∈ events, event.TellsAll) {x : Exchange}
    (hx : x ∈ (session events conn).1) :
    x.before.IsInformed ∧ x.call.run x.before = (x.reply, x.after) := by
  induction events generalizing conn with
  | nil => cases hx
  | cons event events ih =>
      obtain ⟨hevent, hrest⟩ := List.forall_mem_cons.1 hevents
      cases event with
      | change groups routes => exact ih (hconn.served hevent routes) hrest hx
      | call c =>
          rcases List.mem_cons.1 hx with rfl | hx
          · exact ⟨hconn, rfl⟩
          · exact ih (hconn.run c) hrest hx

end Connection

/-! ### The main theorem -/

/-- **Types that are installed later.**  Let a connection know what its server served at some time,
and let the server tell all that it serves, at the start of a session and after each change. Then at
each call the connection knows what was served at some time, and the call reports a type as unknown
just when no type is meant that was served then or is served now: by a name, none of a recommended
version, and by a kind, none of any version. The call asks once what is served, before anything
else, if what it wants was not served then, and does not ask if it was. -/
theorem installed_types_found {conn : Connection} {events : List Connection.Event}
    (hconn : conn.IsInformed) (hevents : ∀ event ∈ events, event.TellsAll) :
    ∀ x ∈ (Connection.session events conn).1, x.call.run x.before = (x.reply, x.after)
      ∧ ∃ learnt, Discovery.TellsAll learnt ∧ x.before.known = .ofGroups learnt
      ∧ (∀ name, x.reply = .error (.unknownType name) ↔ name = x.call.wanted.text
          ∧ ¬ x.call.wanted.IsServed learnt ∧ ¬ x.call.wanted.IsServed x.before.server.groups)
      ∧ ∃ requests : List Request,
        (x.call.wanted.IsServed learnt →
          x.after.server.asked = x.before.server.asked ++ requests.map .request)
        ∧ (¬ x.call.wanted.IsServed learnt →
          x.after.server.asked = x.before.server.asked ++ .discovery :: requests.map .request) := by
  intro x hx
  obtain ⟨⟨htells, learnt, hlearnt, hknown⟩, hrun⟩ :=
    Connection.isInformed_of_mem_session hconn hevents hx
  obtain ⟨hunknown, requests, hafter⟩ := x.call.looksUpFirst_run.spec htells
  have hserved := x.call.wanted.find?_isSome_iff hlearnt
  rw [← hknown] at hserved
  rw [hrun] at hunknown hafter
  have hasked := congrArg (·.server.asked) hafter
  dsimp only [Connection.requested] at hasked
  rw [Connection.asked_lookedUp] at hasked
  refine ⟨hrun, learnt, hlearnt, hknown, fun name => ?_, requests, fun hold => ?_, fun hnew => ?_⟩
  · rw [hunknown name, ← hserved, Option.not_isSome_iff_eq_none]
  · rwa [hserved.2 hold, cond_true, List.append_nil] at hasked
  · rw [← hserved, Bool.not_eq_true] at hnew
    rwa [hnew, cond_false, List.append_assoc] at hasked

/-- A session in which rollouts are installed and taken away again. -/
def rolloutSession : List Connection.Event :=
  let rollout : ObjectKind := ⟨"argoproj.io", "v1alpha1", "Rollout"⟩
  [.call (.resolveType "rollouts"), .change standardServer.groups [],
    .call (.resolveType "Rollouts.argoproj.io"), .call (.get "prod" rollout "web"),
    .change (standardServer.groups.take 3) [], .call (.resolveType "ro")]

/-- On a new connection rollouts are unknown at first, found as soon as they are installed, and
known from then on. -/
theorem installed_types_found_rollouts :
    ∃ conn, Connection.connect { groups := standardServer.groups.take 3 } = (.ok conn, conn.server)
    ∧ (Connection.session rolloutSession conn).1.map (·.isKnown) = [false, false, true, true]
    ∧ conn.IsInformed ∧ (∀ event ∈ rolloutSession, event.TellsAll)
    ∧ ∀ x ∈ (Connection.session rolloutSession conn).1, x.call.run x.before = (x.reply, x.after)
      ∧ ∃ learnt, Discovery.TellsAll learnt ∧ x.before.known = .ofGroups learnt
      ∧ (∀ name, x.reply = .error (.unknownType name) ↔ name = x.call.wanted.text
          ∧ ¬ x.call.wanted.IsServed learnt ∧ ¬ x.call.wanted.IsServed x.before.server.groups)
      ∧ ∃ requests : List Request,
        (x.call.wanted.IsServed learnt →
          x.after.server.asked = x.before.server.asked ++ requests.map .request)
        ∧ (¬ x.call.wanted.IsServed learnt →
          x.after.server.asked = x.before.server.asked ++ .discovery :: requests.map .request) := by
  have hfirst : Discovery.TellsAll (standardServer.groups.take 3) :=
    ⟨by decide, by decide, by decide, by decide⟩
  obtain ⟨conn, hconnect, hconn⟩ :=
    Connection.isInformed_connect (s := { groups := standardServer.groups.take 3 }) hfirst
  have hevents : ∀ event ∈ rolloutSession, event.TellsAll := by
    simp only [rolloutSession, List.forall_mem_cons]
    exact ⟨trivial, standardServer_servesOnce.tellsAll, trivial, trivial, hfirst, trivial,
      List.forall_mem_nil _⟩
  have hknown : (Connection.connect { groups := standardServer.groups.take 3 }).1.map
      (fun conn => (Connection.session rolloutSession conn).1.map (·.isKnown))
        = .ok [false, false, true, true] := by decide +kernel
  rw [hconnect] at hknown
  exact ⟨conn, hconnect, Except.ok.inj hknown, hconn, hevents, installed_types_found hconn hevents⟩

/-- A server with a type that it serves only in a version which it does not recommend. -/
def storageServer : Server where
  groups :=
    [{ name := "", versions := [⟨"v1", [⟨"pods", "Pod", true⟩]⟩] },
     { name := "storage.k8s.io", preferred := some "v1",
       versions := [⟨"v1", [⟨"storageclasses", "StorageClass", false⟩]⟩,
        ⟨"v1beta1", [⟨"csistoragecapacities", "CSIStorageCapacity", true⟩]⟩] }]

/-- A name may be reported as unknown although a type of that name is served. -/
theorem unrecommended_type_unknown :
    ¬ ∀ (conn : Connection) (name : String), Discovery.TellsAll conn.server.groups →
      (ResourceClient.resolveType name conn).1 = .error (.unknownType name) →
      ∀ t ∈ conn.server.types, t.isNamedBy name = false := by
  intro h
  have htells : Discovery.TellsAll storageServer.groups :=
    ⟨by decide, by decide, by decide, by decide⟩
  have hnamed := h { server := storageServer, known := .ofGroups storageServer.groups }
    "csistoragecapacities" htells (by decide +kernel)
    (ServedResource.type ⟨"csistoragecapacities", "CSIStorageCapacity", true⟩
      "storage.k8s.io" "v1beta1") (by decide +kernel)
  revert hnamed
  decide +kernel

end Slumber
