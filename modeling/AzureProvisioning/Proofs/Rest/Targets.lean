/-
# The object that a request names

The address of a request is written from the names of an object, as they are. When the names are plain,
the request names the object: its path leads to it, segment by segment, and its query is the version of
the interface. When one of them is not, a mark cuts the path, or a segment is resolved or read as
something else, and the request names another object or none (`names_iff`).

Requests that name different objects have different targets (`Request.Names.key_eq`), since the segments
are read back from the target by splitting it at its slashes.
-/

import AzureProvisioning.Proofs.Rest.Changing
import AzureProvisioning.Proofs.Rest.Url.Endpoint

namespace AzureProvisioning

namespace Url

/-- The written form of a path is the row of its segments. -/
theorem Path.toList_toText {segments : List String} (h : segments ≠ []) :
    (Path.segments segments).toText.toList = pathText (segments.map String.toList) := by
  obtain ⟨s, segments, rfl⟩ := List.exists_cons_of_ne_nil h
  show ("/" ++ Text.listed "/" (s :: segments)).toList = _
  rw [Text.listed, String.toList_append, String.toList_intercalate]
  induction segments generalizing s with
  | nil => simp [pathText]
  | cons t segments ih =>
    rw [List.map_cons, List.map_cons, List.intercalate_cons_cons, ← List.map_cons, List.append_assoc,
      ih t (List.cons_ne_nil _ _)]
    rfl

/-- The segments of a path are read back from its written form. -/
theorem Path.eq_of_toText {segments segments' : List String} (h : segments ≠ []) (h' : segments' ≠ [])
    (hslash : ∀ s ∈ segments, '/' ∉ s.toList) (hslash' : ∀ s ∈ segments', '/' ∉ s.toList)
    (heq : (Path.segments segments).toText = (Path.segments segments').toText) :
    segments = segments' := by
  have hread {segments : List String} (h : segments ≠ []) (hslash : ∀ s ∈ segments, '/' ∉ s.toList) :
      Text.split '/' (Path.segments segments).toText.toList = [] :: segments.map String.toList := by
    rw [Path.toList_toText h]
    refine split_pathText [] fun t ht => ?_
    obtain rfl | ht := List.mem_cons.1 ht
    · exact List.not_mem_nil
    · obtain ⟨s, hs, rfl⟩ := List.mem_map.1 ht
      exact hslash s hs
  have hlists := (hread h hslash).symm.trans ((congrArg _ (congrArg _ heq)).trans (hread h' hslash'))
  exact List.map_injective_iff.2 (fun _ _ => String.toList_inj.1) (List.cons.inj hlists).2

end Url

/-- What an object is found by. -/
inductive Key
  | group (name : String)
  | account (group name : String)
  deriving DecidableEq, Inhabited, Repr

/-- The segment is the only one that a name is written in, and it is read back as the name. -/
def StandsFor (segment name : String) : Prop :=
  '/' ∉ segment.toList ∧ Url.percentDecoded? segment.toList = some name

/-- What follows the path of an account in a request of this method. -/
def Method.below : Method → List String
  | post => ["failoverPriorityChange"]
  | get | put | patch | delete => []

/-- The request names the object: its path leads to the object, and its query is the version of the
interface. -/
def Request.Names (client : Client) (r : Request) : Key → Prop
  | .group name => ∃ n, StandsFor n name ∧
      r.url.path = .segments ["subscriptions", client.subscription, "resourceGroups", n] ∧
      r.url.query = some ("api-version=" ++ Client.groupVersion)
  | .account group name => ∃ g n, StandsFor g group ∧ StandsFor n name ∧
      r.url.path = .segments (["subscriptions", client.subscription, "resourceGroups", g, "providers",
        "Microsoft.DocumentDB", "databaseAccounts", n] ++ r.method.below) ∧
      r.url.query = some ("api-version=" ++ Client.accountVersion)

namespace Key

/-- Whether the names stand for themselves in a path. -/
def isPlain : Key → Bool
  | group name => Url.isPlain name.toList
  | account g name => Url.isPlain g.toList && Url.isPlain name.toList

/-- The version of the interface of the object. -/
def version : Key → String
  | group _ => Client.groupVersion
  | account .. => Client.accountVersion

/-- The parts of the path that a request of the method is written with. -/
def parts (client : Client) (method : Method) : Key → List String
  | group name => ["subscriptions", client.subscription, "resourceGroups", name]
  | account g name =>
    ["subscriptions", client.subscription, "resourceGroups", g, "providers", "Microsoft.DocumentDB",
      "databaseAccounts", name] ++ method.below

/-- The address that a request of the method is written with. -/
def address (client : Client) (method : Method) : Key → String
  | group name => client.groupAddress name
  | account g name =>
    match method with
    | .post =>
      client.address (client.accountPath g name ++ "/failoverPriorityChange") Client.accountVersion
    | .get | .put | .patch | .delete => client.accountAddress g name

/-- The address is the endpoint, the path and the query. -/
theorem toList_address (client : Client) (method : Method) (key : Key) :
    (key.address client method).toList = client.endpoint.toList ++
      (Url.pathText ((key.parts client method).map String.toList) ++
        '?' :: ("api-version=" ++ key.version).toList) := by
  have hquery : "?api-version=".toList = '?' :: "api-version=".toList := rfl
  cases key with
  | group name =>
    simp [address, parts, version, Client.groupAddress, Client.address, Client.groupPath,
      Client.subscriptionPath, Url.pathText]
  | account g name =>
    cases method <;>
      simp [address, parts, version, Client.accountAddress, Client.address, Client.accountPath,
        Client.groupPath, Client.subscriptionPath, Url.pathText, Method.below]

end Key

namespace Client

/-- The endpoint is bare, and the subscription has letters, digits and hyphens. -/
structure Regular (client : Client) : Prop where
  endpoint : Url.isBare client.endpoint = true
  subscription : ∀ c ∈ client.subscription.toList, c.isAlphanum = true ∨ c = '-'

variable {client : Client} {address : String} {url : Url}

theorem Regular.isInert (h : client.Regular) : ∀ c ∈ client.subscription.toList, Url.isInert c = true := by
  intro c hc
  obtain h | rfl := h.subscription c hc
  · rw [Url.isInert, h]
    rfl
  · rfl

/-- The address that a request goes to has the path and the query that were written. -/
theorem Reaches.exists_form {parts : List (List Char)} {query : List Char}
    (h : client.Reaches address url) (hbare : Url.isBare client.endpoint = true) (hparts : parts ≠ [])
    (hquery : query ≠ []) (hinert : ∀ c ∈ query, Url.isInert c = true)
    (haddress : address.toList = client.endpoint.toList ++ (Url.pathText parts ++ '?' :: query)) :
    ∃ form, form ≠ .other ∧
      url.path = .ofParts (Url.segments form (Url.pathPlace (Url.pathText parts))) ∧
      ((∀ s ∈ parts, Url.isPlain s = true) → url.query = some (String.ofList query)) := by
  obtain ⟨written, hwritten, -, -, rfl, hsendable⟩ := h
  have hscheme : written.scheme = "http" ∨ written.scheme = "https" := by
    simp only [Url.isSendable, Bool.and_eq_true, Bool.or_eq_true, decide_eq_true_eq] at hsendable
    exact hsendable.1.1
  obtain ⟨s, parts, rfl⟩ := List.exists_cons_of_ne_nil hparts
  have hchars : ∀ c ∈ query, Url.isEdge c = false ∧ c ≠ '#' := by
    intro c hc
    obtain ⟨hedge, hmark, -⟩ := Url.isInert_facts (hinert c hc)
    refine ⟨hedge, ?_⟩
    rintro rfl
    exact nomatch hmark
  obtain ⟨form, hform, hpath, hfound⟩ :=
    Url.parse?_of_isBare hbare haddress hquery hchars hwritten hscheme
  refine ⟨form, hform, hpath, fun hplain => ?_⟩
  have hmarks := Url.not_isBreak_of_mem_pathText fun t ht => (Url.isPlain_iff.1 (hplain t ht)).1
  refine (hfound fun c hc => hmarks c (List.mem_cons_of_mem _ hc)).trans ?_
  rw [Url.percentEncode_of_isInert hinert fun c hc => (Url.isInert_facts (hinert c hc)).2.2.2.2.2.2 form]

end Client

section Naming

variable {client : Client} {r : Request} {key : Key}

theorem Key.isInert_query (key : Key) :
    ∀ c ∈ ("api-version=" ++ key.version).toList, Url.isInert c = true := by
  refine List.all_eq_true.1 ?_
  cases key with
  | group => exact (by decide : ("api-version=" ++ Client.groupVersion).toList.all Url.isInert = true)
  | account => exact (by decide : ("api-version=" ++ Client.accountVersion).toList.all Url.isInert = true)

/-- The parts of a path that are the same for every object. -/
def fixedParts : List String :=
  ["subscriptions", "resourceGroups", "providers", "Microsoft.DocumentDB", "databaseAccounts",
    "failoverPriorityChange"]

theorem isPlain_of_mem_fixedParts : ∀ part ∈ fixedParts, Url.isPlain part.toList = true := by decide

/-- A part as it is written as a segment. -/
def segment (part : String) : String :=
  String.ofList (Url.percentEncode Url.pathSet part.toList)

theorem segment_of_mem_fixedParts : ∀ part ∈ fixedParts, segment part = part := by decide

theorem standsFor_segment {name : String} (h : Url.isPlain name.toList = true) :
    StandsFor (segment name) name := by
  rw [StandsFor, segment, String.toList_ofList, Url.percentDecoded?_eq_some_iff]
  refine ⟨Url.not_mem_percentEncode fun hslash => ?_, Url.percentDecode_of_isPlain h⟩
  exact absurd ((Url.isPlain_iff.1 h).1 '/' hslash) (by decide)

/-- A plain text is read as itself. -/
theorem standsFor_self {name : String} (h : Url.isPlain name.toList = true) : StandsFor name name := by
  obtain ⟨hmarks, hwritten, -⟩ := Url.isPlain_iff.1 h
  refine ⟨fun hslash => absurd (hmarks '/' hslash) (by decide), ?_⟩
  exact Url.percentDecoded?_eq_some_iff.2 (Url.percentDecode_of_hasWrittenByte hwritten)

theorem Method.below_subset (method : Method) : method.below ⊆ fixedParts := by
  cases method <;> decide

theorem Key.length_version (key : Key) : key.version.toList.length = 10 := by
  cases key with
  | group => exact (by decide : Client.groupVersion.toList.length = 10)
  | account => exact (by decide : Client.accountVersion.toList.length = 10)

theorem StandsFor.unique {segment name name' : String} (h : StandsFor segment name)
    (h' : StandsFor segment name') : name = name' :=
  Option.some.inj (h.2.symm.trans h'.2)

/-- The parts of the path of an object tell which one it is. -/
theorem Key.eq_of_parts {key' : Key} {method method' : Method}
    (h : key.parts client method = key'.parts client method') : key = key' := by
  cases key with
  | group name =>
    cases key' with
    | group name' => rw [(List.cons.inj (List.cons.inj (List.cons.inj (List.cons.inj h).2).2).2).1]
    | account g' name' => simp [Key.parts] at h
  | account g name =>
    cases key' with
    | group name' => simp [Key.parts] at h
    | account g' name' =>
      simp only [Key.parts, List.cons_append, List.nil_append, List.cons.injEq, true_and] at h
      rw [h.1, h.2.1]

theorem Request.Names.query (h : r.Names client key) :
    r.url.query = some ("api-version=" ++ key.version) := by
  cases key with
  | group name =>
    obtain ⟨_, -, -, hquery⟩ := h
    exact hquery
  | account g name =>
    obtain ⟨_, _, -, -, -, hquery⟩ := h
    exact hquery

theorem Request.Names.target (h : r.Names client key) :
    r.url.target = r.url.path.toText ++ ("?" ++ ("api-version=" ++ key.version)) := by
  rw [Url.target, h.query]

variable (hclient : client.Regular)
include hclient

theorem Client.Regular.isPlain : Url.isPlain client.subscription.toList = true :=
  Url.isPlain_of_isInert hclient.isInert

theorem Client.Regular.segment : segment client.subscription = client.subscription := by
  rw [AzureProvisioning.segment, Url.percentEncode_of_isInert hclient.isInert fun c hc =>
    (Url.isInert_facts (hclient.isInert c hc)).2.2.2.2.2.1, String.ofList_toList]

/-- A key is plain when all parts of its path are. -/
theorem Key.isPlain_iff (method : Method) :
    key.isPlain = true ↔ ∀ part ∈ key.parts client method, Url.isPlain part.toList = true := by
  have hfixed := isPlain_of_mem_fixedParts
  have hbelow : (∀ part ∈ method.below, Url.isPlain part.toList = true) ↔ True :=
    iff_true_intro fun part hpart => hfixed part (method.below_subset hpart)
  simp only [fixedParts, List.forall_mem_cons] at hfixed
  obtain ⟨hsubscriptions, hgroups, hproviders, hnamespace, haccounts, -⟩ := hfixed
  cases key with
  | group name =>
    simp only [Key.isPlain, Key.parts, List.forall_mem_cons, hclient.isPlain, hsubscriptions, hgroups,
      true_and, List.not_mem_nil, false_implies, implies_true, and_true]
  | account g name =>
    simp only [Key.isPlain, Key.parts, List.forall_mem_append, List.forall_mem_cons, hclient.isPlain,
      hsubscriptions, hgroups, hproviders, hnamespace, haccounts, hbelow, Bool.and_eq_true, true_and,
      List.not_mem_nil, false_implies, implies_true, and_true]

/-- The segments of a request that names an object stand for the parts of its path. -/
theorem Request.Names.exists_segments (h : r.Names client key) :
    ∃ segments, r.url.path = .segments segments ∧
      List.Forall₂ StandsFor segments (key.parts client r.method) := by
  have hfixed : ∀ part ∈ fixedParts, StandsFor part part :=
    fun part hpart => standsFor_self (isPlain_of_mem_fixedParts part hpart)
  have hbelow : List.Forall₂ StandsFor r.method.below r.method.below :=
    List.forall₂_same.2 fun part hpart => hfixed part (r.method.below_subset hpart)
  have hsubscription := standsFor_self hclient.isPlain
  cases key with
  | group name =>
    obtain ⟨n, hn, hpath, -⟩ := h
    exact ⟨_, hpath, .cons (hfixed _ (by decide)) (.cons hsubscription (.cons (hfixed _ (by decide))
      (.cons hn .nil)))⟩
  | account g name =>
    obtain ⟨group, n, hgroup, hn, hpath, -⟩ := h
    exact ⟨_, hpath, .cons (hfixed _ (by decide)) (.cons hsubscription (.cons (hfixed _ (by decide))
      (.cons hgroup (.cons (hfixed _ (by decide)) (.cons (hfixed _ (by decide))
        (.cons (hfixed _ (by decide)) (.cons hn hbelow)))))))⟩

/-- A request with the parts of the path of a plain key as its segments names the object. -/
theorem Request.names_of_isPlain (hplain : key.isPlain = true)
    (hpath : r.url.path = .segments ((key.parts client r.method).map segment))
    (hquery : r.url.query = some ("api-version=" ++ key.version)) : r.Names client key := by
  have hbelow : r.method.below.map segment = r.method.below :=
    (List.map_congr_left fun part hpart => segment_of_mem_fixedParts part
      (r.method.below_subset hpart)).trans (List.map_id _)
  have hfixed := segment_of_mem_fixedParts
  simp only [fixedParts, List.forall_mem_cons] at hfixed
  obtain ⟨hsubscriptions, hgroups, hproviders, hnamespace, haccounts, -⟩ := hfixed
  cases key with
  | group name =>
    refine ⟨segment name, standsFor_segment hplain, ?_, hquery⟩
    rw [hpath]
    simp [Key.parts, hclient.segment, hsubscriptions, hgroups]
  | account g name =>
    rw [Key.isPlain, Bool.and_eq_true] at hplain
    refine ⟨segment g, segment name, standsFor_segment hplain.1, standsFor_segment hplain.2, ?_, hquery⟩
    rw [hpath]
    simp only [Key.parts, List.map_append, List.map_cons, List.map_nil, hclient.segment,
      hsubscriptions, hgroups, hproviders, hnamespace, haccounts, hbelow]

/-- **A request that is written with a key names its object exactly when the key is plain.** -/
theorem names_iff (h : client.Reaches (key.address client r.method) r.url) :
    r.Names client key ↔ key.isPlain = true := by
  have hquery : ("api-version=" ++ key.version).toList ≠ [] := by simp
  have hparts : (key.parts client r.method).map String.toList ≠ [] := by
    cases key <;> exact List.cons_ne_nil _ _
  obtain ⟨form, hform, hpath, hfound⟩ :=
    h.exists_form hclient.endpoint hparts hquery key.isInert_query (key.toList_address client r.method)
  have hplain : key.isPlain = true ↔
      ∀ s ∈ (key.parts client r.method).map String.toList, Url.isPlain s = true := by
    rw [key.isPlain_iff hclient r.method, List.forall_mem_map]
  constructor
  · intro hnames
    obtain ⟨segments, hsegments, hread⟩ := hnames.exists_segments hclient
    have hlists : Url.segments form (Url.pathPlace (Url.pathText
        ((key.parts client r.method).map String.toList))) = segments.map String.toList := by
      rw [← Url.Path.segments.inj (hpath.symm.trans hsegments), List.map_map]
      exact ((List.map_congr_left fun s _ => String.toList_ofList).trans (List.map_id _)).symm
    refine hplain.2 (Url.isPlain_of_segments hform ?_)
    rw [hlists, List.forall₂_map_left_iff, List.forall₂_map_right_iff]
    exact hread.imp fun s part h => Url.percentDecoded?_eq_some_iff.1 h.2
  · intro hkey
    have hall := hplain.1 hkey
    refine Request.names_of_isPlain hclient hkey (hpath.trans ?_) ?_
    · rw [Url.pathPlace_pathText fun s hs => (Url.isPlain_iff.1 (hall s hs)).1,
        Url.segments_of_isPlain hform hparts hall, Url.Path.ofParts, List.map_map, List.map_map]
      rfl
    · rw [hfound hall, String.ofList_toList]

/-- **Requests with one target name one object**: its path is read back from the target. -/
theorem Request.Names.key_eq {r' : Request} {key' : Key} (h : r.Names client key)
    (h' : r'.Names client key') (htarget : r.url.target = r'.url.target) : key = key' := by
  obtain ⟨segments, hpath, hread⟩ := h.exists_segments hclient
  obtain ⟨segments', hpath', hread'⟩ := h'.exists_segments hclient
  have htext : (Url.Path.segments segments).toText = (Url.Path.segments segments').toText := by
    rw [h.target, h'.target, hpath, hpath', ← String.toList_inj] at htarget
    simp only [String.toList_append] at htarget
    refine String.toList_inj.1 (List.append_inj' htarget ?_).1
    simp only [List.length_append, Key.length_version]
  have hslash {segments parts : List String} (h : List.Forall₂ StandsFor segments parts) :
      ∀ s ∈ segments, '/' ∉ s.toList := by
    induction h with
    | nil => exact fun _ hs => nomatch hs
    | cons hfirst _ ih => exact List.forall_mem_cons.2 ⟨hfirst.1, ih⟩
  have hne {segments : List String} {key : Key} {method : Method}
      (h : List.Forall₂ StandsFor segments (key.parts client method)) : segments ≠ [] := by
    rintro rfl
    cases key <;> cases h
  obtain rfl := Url.Path.eq_of_toText (hne hread) (hne hread') (hslash hread) (hslash hread') htext
  have hunique : Relator.RightUnique StandsFor := fun _ _ _ => StandsFor.unique
  exact Key.eq_of_parts (hunique.forall₂ hread hread')

end Naming

end AzureProvisioning
