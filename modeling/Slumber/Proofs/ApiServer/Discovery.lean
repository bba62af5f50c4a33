import Mathlib.Data.List.Find
import Mathlib.Data.List.Perm.Basic
import Slumber.ApiServer.Connection
import Slumber.Cluster.Store
import Slumber.Proofs.SortedMap

/-!
# Types by their names

A connection looks a type up group by group, among the types of the version that each group
recommends, and asks the server again if it finds none. A cluster in memory looks it up in one list.
If every group is served in one version, then both look among the types that are served, and a name
that means no more than one of them means the same to both.

* `ResourceType.isNamedBy` — when a name means a type;
* `Discovery.findType?_eq` — looking through groups is looking through the list of their types;
* `Discovery.TellsAll`, `Server.discover_eq` — when all that is served is learnt;
* `Server.ServesOnce`, `Server.ServesOnce.mem_types_iff` — what is learnt are the types served;
* `Connection.KnowsServed` — what a connection knows of its server;
* `Connection.lookUp_of_known`, `Connection.lookUp_of_unknown` — when the server is asked again;
* `Connection.resolveType_served` — the type that a connection gives;
* `resolveType_alike` — the main theorem.
-/

namespace Slumber

/-! ### Lists and maps -/

section

variable {α : Type} {p : α → Bool} {xs ys : List α} {a : α}

/-- What is looked for is found if there is nothing else of its sort. -/
theorem find?_eq_some_of_unique (ha : a ∈ xs) (hpa : p a = true)
    (hone : ∀ b ∈ xs, p b = true → b = a) : xs.find? p = some a := by
  cases hfind : xs.find? p with
  | none => exact absurd hpa (List.find?_eq_none.1 hfind a ha)
  | some b => rw [hone b (List.mem_of_find?_eq_some hfind) (List.find?_some hfind)]

/-- In two lists with the same members the same is found if it is unique. -/
theorem find?_eq_of_mem_iff (hsame : ∀ a, a ∈ ys ↔ a ∈ xs)
    (hone : ∀ a ∈ xs, ∀ b ∈ xs, p a = true → p b = true → a = b) : ys.find? p = xs.find? p := by
  cases hfind : xs.find? p with
  | none =>
      rw [List.find?_eq_none] at hfind ⊢
      exact fun a ha => hfind a ((hsame a).1 ha)
  | some a =>
      have ha := List.mem_of_find?_eq_some hfind
      have hpa := List.find?_some hfind
      exact find?_eq_some_of_unique ((hsame a).2 ha) hpa fun b hb hpb =>
        hone b ((hsame b).1 hb) a ha hpb hpa

end

namespace FiniteMap

variable {κ α : Type} [DecidableEq κ] [LT κ] [DecidableLT κ]

/-- Values with keys of their own are those of their map. -/
theorem values_ofList_perm {key : α → κ} {xs : List α} (hnodup : (xs.map key).Nodup) :
    (ofList (xs.map fun a => (key a, a))).values.Perm xs := by
  have hkeys : ((xs.map fun a => (key a, a)).map (·.1)).Nodup := by
    rw [List.map_map]
    exact hnodup
  have hvalues := (ofList_perm hkeys).map (·.2)
  rw [List.map_map] at hvalues
  exact hvalues.trans (.of_eq (List.map_id xs))

/-- Under its own key each value is found. -/
theorem find?_ofList_eq_some_iff {key : α → κ} {xs : List α} (hnodup : (xs.map key).Nodup) {x : κ}
    {a : α} : (ofList (xs.map fun a => (key a, a))).find? x = some a ↔ a ∈ xs ∧ key a = x := by
  have hkeys : ((xs.map fun a => (key a, a)).map (·.1)).Nodup := by
    rw [List.map_map]
    exact hnodup
  have hperm := ofList_perm hkeys
  rw [← mem_iff_find?_of_nodup ((hperm.map _).nodup_iff.2 hkeys), hperm.mem_iff, List.mem_map]
  constructor
  · rintro ⟨b, hb, heq⟩
    obtain ⟨rfl, rfl⟩ := Prod.mk.inj heq
    exact ⟨hb, rfl⟩
  · rintro ⟨ha, rfl⟩
    exact ⟨a, ha, rfl⟩

end FiniteMap

/-! ### Names of types -/

/-- The name means the type: by its plural or its kind, in any letter case and with blanks around
it, or by its short name, and with its group or without one. -/
def ResourceType.isNamedBy (name : String) (t : ResourceType) : Bool :=
  (TypeName.ofText name).wantsGroup t.kind.group
    && (TypeName.ofText name).names t.plural t.kind.kind

/-- The type of a name in a list of types. -/
theorem Cluster.findType?_eq (c : Cluster) (name : String) :
    c.findType? name = c.types.find? (·.isNamedBy name) := rfl

/-! ### Groups -/

namespace ServedGroup

/-- The types of all versions. -/
def types (g : ServedGroup) : List ResourceType :=
  g.versions.flatMap fun v =>
    (v.resources.filter ServedResource.isType).map (·.type g.name v.version)

/-- The group is served in one version, the one that it recommends. -/
def IsAtOneVersion (g : ServedGroup) : Prop :=
  ∃ v, g.versions = [v] ∧ g.recommended? = some v.version

theorem IsAtOneVersion.recommendedTypes_eq {g : ServedGroup} (h : g.IsAtOneVersion) :
    g.recommendedTypes = g.types := by
  obtain ⟨v, hversions, hrecommended⟩ := h
  unfold recommendedTypes types typesIn
  rw [hrecommended, hversions]
  simp

/-- The types of a group are in it. -/
theorem group_of_mem_recommendedTypes {g : ServedGroup} {t : ResourceType}
    (ht : t ∈ g.recommendedTypes) : t.kind.group = g.name := by
  unfold recommendedTypes at ht
  cases hrecommended : g.recommended? with
  | none =>
      rw [hrecommended] at ht
      cases ht
  | some version =>
      rw [hrecommended] at ht
      change t ∈ g.typesIn version at ht
      unfold typesIn at ht
      split at ht
      · obtain ⟨r, -, rfl⟩ := List.mem_map.1 ht
        rfl
      · cases ht

/-- A name that gives a group means types of that group only. -/
theorem find?_recommendedTypes (g : ServedGroup) (name : String) :
    g.recommendedTypes.find? (·.isNamedBy name)
      = if (TypeName.ofText name).wantsGroup g.name then
          g.recommendedTypes.find? fun t => (TypeName.ofText name).names t.plural t.kind.kind
        else none := by
  have hgroup : ∀ t ∈ g.recommendedTypes, t.isNamedBy name
      = ((TypeName.ofText name).wantsGroup g.name
        && (TypeName.ofText name).names t.plural t.kind.kind) := by
    intro t ht
    rw [ResourceType.isNamedBy, group_of_mem_recommendedTypes ht]
  cases hwanted : (TypeName.ofText name).wantsGroup g.name with
  | true =>
      rw [if_pos rfl]
      refine List.find?_congr fun t ht => ?_
      rw [hgroup t ht, hwanted, Bool.true_and]
  | false =>
      rw [if_neg Bool.false_ne_true, List.find?_eq_none]
      intro t ht
      rw [hgroup t ht, hwanted]
      exact Bool.false_ne_true

end ServedGroup

namespace Discovery

/-- The types of the recommended versions of all groups. -/
def types (d : Discovery) : List ResourceType :=
  d.values.flatMap ServedGroup.recommendedTypes

/-- All of these groups and their versions can be told apart: there is a core group, each group has
a name of its own and some version, and each version of a group has a name of its own. -/
structure TellsAll (groups : List ServedGroup) : Prop where
  core : ∃ g ∈ groups, g.name = ""
  distinct : (groups.map (·.name)).Nodup
  someVersion : ∀ g ∈ groups, g.versions ≠ []
  distinctVersions : ∀ g ∈ groups, (g.versions.map (·.version)).Nodup

/-- The groups under their names. -/
def ofGroups (groups : List ServedGroup) : Discovery :=
  FiniteMap.ofList (groups.map fun g => (g.name, g))

/-- Such groups are told as they are. -/
theorem TellsAll.ofGroups?_eq {groups : List ServedGroup} (h : TellsAll groups) :
    ofGroups? groups = some (ofGroups groups) := by
  obtain ⟨core, hcore, hname⟩ := h.core
  refine if_neg ?_
  rintro (hempty | hnone)
  · obtain ⟨g, hg, hempty⟩ := List.any_eq_true.1 hempty
    exact h.someVersion g hg (List.isEmpty_iff.1 hempty)
  · have hne := List.all_eq_true.1 hnone core hcore
    rw [hname] at hne
    cases hne

theorem TellsAll.mem_values_iff {groups : List ServedGroup} (h : TellsAll groups)
    {g : ServedGroup} : g ∈ (ofGroups groups).values ↔ g ∈ groups :=
  (FiniteMap.values_ofList_perm h.distinct).mem_iff

theorem TellsAll.find?_eq_some_iff {groups : List ServedGroup} (h : TellsAll groups)
    {name : String} {g : ServedGroup} :
    (ofGroups groups).find? name = some g ↔ g ∈ groups ∧ g.name = name :=
  FiniteMap.find?_ofList_eq_some_iff h.distinct

/-- **Groups and lists.**  Looking a name up group by group, in the groups that it may mean, is
looking it up in the list of all types. -/
theorem findType?_eq (d : Discovery) (name : String) :
    d.findType? name = d.types.find? (·.isNamedBy name) := by
  unfold findType? types
  induction d.values with
  | nil => rfl
  | cons g groups ih =>
      rw [List.flatMap_cons, List.find?_append, g.find?_recommendedTypes, ← ih]
      dsimp only
      rw [List.filter_cons]
      split
      · rw [List.findSome?_cons]
        cases g.recommendedTypes.find? fun t =>
          (TypeName.ofText name).names t.plural t.kind.kind <;> rfl
      · rfl

end Discovery

/-! ### Servers -/

namespace Server

/-- The types that are served, in any version. -/
def types (s : Server) : List ResourceType :=
  s.groups.flatMap ServedGroup.types

/-- The server tells what it serves, each group once and in one version. -/
structure ServesOnce (s : Server) : Prop where
  core : ∃ g ∈ s.groups, g.name = ""
  distinct : (s.groups.map (·.name)).Nodup
  oneVersion : ∀ g ∈ s.groups, g.IsAtOneVersion

theorem ServesOnce.tellsAll {s : Server} (hs : s.ServesOnce) : Discovery.TellsAll s.groups where
  core := hs.core
  distinct := hs.distinct
  someVersion := by
    intro g hg
    obtain ⟨v, hv, -⟩ := hs.oneVersion g hg
    rw [hv]
    exact List.cons_ne_nil v []
  distinctVersions := by
    intro g hg
    obtain ⟨v, hv, -⟩ := hs.oneVersion g hg
    rw [hv]
    exact List.pairwise_singleton _ v.version

theorem discover_eq {s : Server} (hs : Discovery.TellsAll s.groups) :
    discover s = (some (.ofGroups s.groups), { s with asked := s.asked ++ [.discovery] }) := by
  unfold discover
  rw [hs.ofGroups?_eq]

/-- What is learnt of a server are the types that it serves. -/
theorem ServesOnce.mem_types_iff {s : Server} (hs : s.ServesOnce) {t : ResourceType} :
    t ∈ (Discovery.ofGroups s.groups).types ↔ t ∈ s.types := by
  unfold Discovery.types types
  rw [List.mem_flatMap, List.mem_flatMap]
  refine exists_congr fun g => ?_
  rw [hs.tellsAll.mem_values_iff]
  refine and_congr_right fun hg => ?_
  rw [(hs.oneVersion g hg).recommendedTypes_eq]

end Server

/-! ### Connections -/

namespace Connection

variable {conn : Connection}

/-- Whatever is known of the server is served. -/
def KnowsServed (conn : Connection) : Prop :=
  ∀ t ∈ conn.known.types, t ∈ conn.server.types

/-- The connection after the server has told what it serves. -/
def renewed (conn : Connection) : Connection where
  server := { conn.server with asked := conn.server.asked ++ [.discovery] }
  known := .ofGroups conn.server.groups

/-- The reply to a name, given the type that it means. -/
def typeReply (name : String) : Option ResourceType → Reply ResourceType
  | some t => .ok t
  | none => .error (.unknownType name)

section

variable {look : Discovery → Option ResourceType} {name : String}

theorem lookUp_of_known {t : ResourceType} (hfound : look conn.known = some t) :
    lookUp look name conn = (.ok t, conn) := by
  simp only [lookUp, hfound]

/-- What is not known is looked up again among all that is served. -/
theorem lookUp_of_unknown (hserver : Discovery.TellsAll conn.server.groups)
    (hfound : look conn.known = none) :
    lookUp look name conn = (typeReply name (look conn.renewed.known), conn.renewed) := by
  simp only [lookUp, hfound, refresh, Server.discover_eq hserver, renewed]
  cases look (.ofGroups conn.server.groups) <;> rfl

end

/-- **One name.**  A connection that knows only what is served gives the type of a name among those
that are served, if there is at most one. It still knows only what is served then. -/
theorem resolveType_served (hserver : conn.server.ServesOnce) (hknown : conn.KnowsServed)
    {name : String} (hone : ∀ t ∈ conn.server.types, ∀ t' ∈ conn.server.types,
      t.isNamedBy name = true → t'.isNamedBy name = true → t = t') :
    ∃ conn', resolveType name conn
        = (typeReply name (conn.server.types.find? (·.isNamedBy name)), conn')
      ∧ conn'.server.groups = conn.server.groups ∧ conn'.KnowsServed := by
  cases hfound : conn.known.findType? name with
  | some t =>
      refine ⟨conn, ?_, rfl, hknown⟩
      rw [resolveType, lookUp_of_known hfound]
      rw [Discovery.findType?_eq] at hfound
      have ht := hknown t (List.mem_of_find?_eq_some hfound)
      have hnamed := List.find?_some hfound
      rw [find?_eq_some_of_unique ht hnamed fun t' ht' hnamed' => hone t' ht' t ht hnamed' hnamed]
      rfl
  | none =>
      refine ⟨conn.renewed, ?_, rfl, fun t => hserver.mem_types_iff.1⟩
      have hsame : conn.renewed.known.types.find? (·.isNamedBy name)
          = conn.server.types.find? (·.isNamedBy name) :=
        find?_eq_of_mem_iff (fun t => hserver.mem_types_iff) hone
      rw [resolveType, lookUp_of_unknown hserver.tellsAll hfound, Discovery.findType?_eq, hsame]

end Connection

/-! ### The main theorem -/

section

variable {conn : Connection} {cluster : Cluster}

/-- **Names mean the same.**  Let a server tell what it serves, each group once and in one version,
let a connection to it know nothing else, and let a cluster in memory have the same types. If a name
means at most one type that is served, then either there is one, and both the connection and the
cluster give it; or there is none, and both fail with that name as an unknown type. The cluster is
as it was then, and the connection, whose server serves what it did, still knows nothing else. -/
theorem resolveType_alike (hserver : conn.server.ServesOnce) (hknown : conn.KnowsServed)
    (hsame : ∀ t, t ∈ cluster.types ↔ t ∈ conn.server.types) (name : String)
    (hone : ∀ t ∈ conn.server.types, ∀ t' ∈ conn.server.types,
      t.isNamedBy name = true → t'.isNamedBy name = true → t = t') :
    ∃ conn', conn'.server.groups = conn.server.groups ∧ conn'.KnowsServed
      ∧ ((∃ t ∈ conn.server.types, t.isNamedBy name = true
          ∧ ResourceClient.resolveType name conn = (.ok t, conn')
          ∧ ResourceClient.resolveType name cluster = (.ok t, cluster))
        ∨ (∀ t ∈ conn.server.types, t.isNamedBy name = false)
          ∧ ResourceClient.resolveType name conn = (.error (.unknownType name), conn')
          ∧ ResourceClient.resolveType name cluster = (.error (.unknownType name), cluster)) := by
  obtain ⟨conn', hresolve, hgroups, hknown'⟩ := Connection.resolveType_served hserver hknown hone
  have hcluster : cluster.findType? name = conn.server.types.find? (·.isNamedBy name) :=
    (cluster.findType?_eq name).trans (find?_eq_of_mem_iff hsame hone)
  refine ⟨conn', hgroups, hknown', ?_⟩
  cases hfind : conn.server.types.find? (·.isNamedBy name) with
  | some t =>
      rw [hfind] at hresolve hcluster
      refine .inl ⟨t, List.mem_of_find?_eq_some hfind, List.find?_some hfind, hresolve, ?_⟩
      simp only [ResourceClient.resolveType, hcluster]
  | none =>
      rw [hfind] at hresolve hcluster
      refine .inr ⟨fun t ht => ?_, hresolve, ?_⟩
      · exact Bool.not_eq_true _ ▸ List.find?_eq_none.1 hfind t ht
      · simp only [ResourceClient.resolveType, hcluster]

end

/-! ### An instance -/

/-- A server with the types that a standard cluster has. -/
def standardServer : Server where
  groups :=
    [{ name := "",
       versions := [⟨"v1", [⟨"pods", "Pod", true⟩, ⟨"pods/log", "Pod", true⟩,
        ⟨"namespaces", "Namespace", false⟩]⟩] },
     { name := "apps", preferred := some "v1",
       versions := [⟨"v1", [⟨"deployments", "Deployment", true⟩,
        ⟨"deployments/scale", "Scale", true⟩, ⟨"statefulsets", "StatefulSet", true⟩]⟩] },
     { name := "autoscaling",
       versions := [⟨"v2", [⟨"horizontalpodautoscalers", "HorizontalPodAutoscaler", true⟩]⟩] },
     { name := "argoproj.io",
       versions := [⟨"v1alpha1", [⟨"rollouts", "Rollout", true⟩]⟩] }]

/-- A connection from before the last group was installed. -/
def olderConnection : Connection where
  server := standardServer
  known := FiniteMap.ofList ((standardServer.groups.take 3).map fun g => (g.name, g))

theorem standardServer_servesOnce : standardServer.ServesOnce where
  core := by decide
  distinct := by decide
  oneVersion := by
    intro g hg
    simp only [standardServer, List.mem_cons, List.not_mem_nil, or_false] at hg
    rcases hg with rfl | rfl | rfl | rfl <;> exact ⟨_, rfl, rfl⟩

/-- A workload is known by its short name and its group, a rollout is found among what was installed
later, and a job is of no type that is served. -/
theorem resolveType_alike_standard :
    olderConnection.server.ServesOnce ∧ olderConnection.KnowsServed
    ∧ (∀ t, t ∈ Cluster.standard.types ↔ t ∈ olderConnection.server.types)
    ∧ (∃ t conn', t.plural = "deployments"
      ∧ ResourceClient.resolveType " Deploy.apps " olderConnection = (.ok t, conn')
      ∧ ResourceClient.resolveType " Deploy.apps " Cluster.standard = (.ok t, .standard))
    ∧ (∃ t conn', t.plural = "rollouts"
      ∧ ResourceClient.resolveType "ROLLOUT" olderConnection = (.ok t, conn')
      ∧ ResourceClient.resolveType "ROLLOUT" Cluster.standard = (.ok t, .standard))
    ∧ ∃ conn', ResourceClient.resolveType "cj.batch" olderConnection
          = (.error (.unknownType "cj.batch"), conn')
      ∧ ResourceClient.resolveType "cj.batch" Cluster.standard
          = (.error (.unknownType "cj.batch"), .standard) := by
  have hknown : olderConnection.KnowsServed := by
    show ∀ t ∈ olderConnection.known.types, t ∈ olderConnection.server.types
    decide +kernel
  have hthere : ∀ t ∈ Cluster.standard.types, t ∈ olderConnection.server.types := by decide +kernel
  have hhere : ∀ t ∈ olderConnection.server.types, t ∈ Cluster.standard.types := by decide +kernel
  have hsame := fun t => Iff.intro (hthere t) (hhere t)
  have hfound : ∀ name plural,
      (∀ t ∈ olderConnection.server.types, ∀ t' ∈ olderConnection.server.types,
        t.isNamedBy name = true → t'.isNamedBy name = true → t = t') →
      (∀ t ∈ olderConnection.server.types, t.isNamedBy name = true → t.plural = plural) →
      (∃ t ∈ olderConnection.server.types, t.isNamedBy name = true) →
      ∃ t conn', t.plural = plural
        ∧ ResourceClient.resolveType name olderConnection = (.ok t, conn')
        ∧ ResourceClient.resolveType name Cluster.standard = (.ok t, .standard) := by
    rintro name plural hone hplural ⟨t₀, ht₀, hnamed₀⟩
    obtain ⟨conn', -, -, ⟨t, ht, hnamed, hreplies⟩ | ⟨hnone, -⟩⟩ :=
      resolveType_alike standardServer_servesOnce hknown hsame name hone
    · exact ⟨t, conn', hplural t ht hnamed, hreplies⟩
    · rw [hnone t₀ ht₀] at hnamed₀
      cases hnamed₀
  have hjobs : ∀ t ∈ olderConnection.server.types, t.isNamedBy "cj.batch" = false := by
    decide +kernel
  refine ⟨standardServer_servesOnce, hknown, hsame,
    hfound _ _ (by decide +kernel) (by decide +kernel) (by decide +kernel),
    hfound _ _ (by decide +kernel) (by decide +kernel) (by decide +kernel), ?_⟩
  obtain ⟨conn', -, -, ⟨t, ht, hnamed, -⟩ | ⟨-, hreplies⟩⟩ :=
    resolveType_alike standardServer_servesOnce hknown hsame "cj.batch" (by decide +kernel)
  · rw [hjobs t ht] at hnamed
    cases hnamed
  · exact ⟨conn', hreplies⟩

end Slumber
