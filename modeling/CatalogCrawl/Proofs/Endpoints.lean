import CatalogCrawl.Catalog.Client
import CatalogCrawl.Proofs.UrlPaths

/-! # Where requests go

Every endpoint is the base URL with another path: what is left of the path of the base URL,
then `api` and `apps`, and then what the call adds (`Client.target_eq`). A plain id is one
segment of it, and no two of them lead to one URL (`Client.route_apart`). The ids `.` and `..`
lead to the listings, and an id with tabs or line ends in it leads where it would lead without
them, or out of `apps`. -/

namespace CatalogCrawl

namespace Client

variable {url : String} {client : Client}

/-- The base URL is one of `http` or `https`. -/
def OnWeb (c : Client) : Prop := c.base.scheme = "http".toList ∨ c.base.scheme = "https".toList

/-- The segments that all endpoints are below. -/
def apps (c : Client) : List (List Char) := Url.root c.base.path ++ ["api".toList, "apps".toList]

/-- The segments of the endpoint of a call. -/
def route (c : Client) : Call → List (List Char)
  | .list _ => c.apps ++ [[]]
  | .similar id _ => Url.pushed c.apps id.toList ++ ["similar".toList, []]
  | .detail id _ => Url.pushed c.apps id.toList ++ [[]]

theorem OnWeb.kind (h : client.OnWeb) : client.base.kind = .special := by
  rcases h with h | h <;> rw [Url.kind, h] <;> decide

theorem head?_base (hurl : ofUrl url = .ok client) (h : client.OnWeb) :
    client.base.path.head? = some '/' := by
  unfold ofUrl at hurl
  split at hurl
  · cases hurl
  · next base hparse =>
    split at hurl
    · cases hurl
    · cases hurl
      exact Url.head?_parse hparse h.kind

theorem apps_eq (c : Client) :
    c.apps = (Url.root c.base.path ++ ["api".toList]) ++ ["apps".toList] := by
  rw [apps, List.append_assoc]
  rfl

/-- Whatever the id, the segment `api` stays. -/
theorem api_mem_pushed (c : Client) (cs : List Char) : "api".toList ∈ Url.pushed c.apps cs := by
  have hapi : "api".toList ∈ c.apps.dropLast := by
    rw [apps_eq, List.dropLast_concat]
    exact List.mem_append_right _ List.mem_cons_self
  have happs : "api".toList ∈ c.apps := (List.dropLast_sublist _).subset hapi
  rw [Url.pushed]
  split
  · exact happs
  · split
    · exact List.mem_append_left _ happs
    · split
      · exact List.mem_append_left _ hapi
      · exact List.mem_append_left _ happs

theorem not_mem_apps (c : Client) : ∀ s ∈ c.apps, '/' ∉ s := by
  intro s hs
  rcases List.mem_append.mp hs with hs | hs
  · exact Url.not_mem_root hs
  · have hnames : ∀ s ∈ ["api".toList, "apps".toList], '/' ∉ s := by decide
    exact hnames s hs

theorem not_mem_route (c : Client) (call : Call) : ∀ s ∈ c.route call, '/' ∉ s := by
  have hends : ∀ s ∈ ["similar".toList, []], '/' ∉ s := by decide
  intro s hs
  cases call with
  | list q =>
    rcases List.mem_append.mp hs with hs | hs
    · exact c.not_mem_apps s hs
    · exact hends s (List.mem_cons_of_mem _ hs)
  | similar id l =>
    rcases List.mem_append.mp hs with hs | hs
    · exact Url.not_mem_pushed c.not_mem_apps _ s hs
    · exact hends s hs
  | detail id l =>
    rcases List.mem_append.mp hs with hs | hs
    · exact Url.not_mem_pushed c.not_mem_apps _ s hs
    · exact hends s (List.mem_cons_of_mem _ hs)

theorem route_ne_nil (c : Client) (call : Call) : c.route call ≠ [] := by
  cases call <;> exact List.append_ne_nil_of_right_ne_nil _ (List.cons_ne_nil _ _)

/-- The segments of endpoints that are no ids. -/
def names : List (List Char) := ["api".toList, "apps".toList, "similar".toList, []]

theorem plain_name {cs : List Char} (h : cs ∈ names) :
    Url.Plain cs ∧ Url.encodeSegment cs = cs := by
  have hnames : ∀ cs ∈ names,
      (cs ≠ ['.'] ∧ cs ≠ ['.', '.'] ∧ cs.any Url.isPassedOver = false) ∧
        Url.encodeSegment cs = cs := by
    decide
  obtain ⟨⟨hdot, hdots, hpassed⟩, hcode⟩ := hnames cs h
  exact ⟨⟨hdot, hdots, hpassed⟩, hcode⟩

/-- A name is added behind other segments as it is. -/
theorem push_name {segs : List (List Char)} {cs : List Char} (hapi : "api".toList ∈ segs)
    (h : cs ∈ names) :
    Url.pushSegment .special (Url.slashed segs) cs = Url.slashed (segs ++ [cs]) := by
  obtain ⟨hplain, hcode⟩ := plain_name h
  have hlong : 1 < (Url.slashed segs).length :=
    Nat.lt_trans (by decide : 1 < "api".toList.length) (Url.length_lt_slashed hapi)
  rw [Url.pushSegment_slashed hlong hplain, hcode]

/-- The apps are two segments below the base of the catalog. -/
theorem push_apps (hurl : ofUrl url = .ok client) (h : client.OnWeb) :
    Url.pushSegment .special
      (Url.pushSegment .special (Url.dropEmptySegment client.base.path) "api".toList)
      "apps".toList = Url.slashed client.apps := by
  obtain ⟨hplain, hcode⟩ := plain_name (by decide : "api".toList ∈ names)
  rw [Url.pushSegment_root (head?_base hurl h) hplain, hcode, push_name, apps_eq]
  · exact List.mem_append_right _ List.mem_cons_self
  · decide

/-- An endpoint is the base URL with another path. -/
theorem target_eq (hurl : ofUrl url = .ok client) (h : client.OnWeb) (call : Call) :
    (client.target call).1 = { client.base with path := Url.slashed (client.route call) } := by
  have hstart := push_apps hurl h
  have hid (cs : List Char) : Url.pushSegment .special (Url.slashed client.apps) cs =
      Url.slashed (Url.pushed client.apps cs) := by
    rw [apps_eq]
    exact Url.pushSegment_any _ _
  have hapi : "api".toList ∈ client.apps := by
    rw [apps_eq]
    exact List.mem_append_left _ (List.mem_append_right _ List.mem_cons_self)
  cases call with
  | list q =>
    simp only [target, endpoint, Url.extend, List.append_nil, List.cons_append, List.nil_append,
      List.foldl_cons, List.foldl_nil, h.kind]
    rw [hstart, push_name hapi (by decide)]
    rfl
  | similar id l =>
    simp only [target, endpoint, Url.extend, List.cons_append, List.nil_append, List.foldl_cons,
      List.foldl_nil, h.kind]
    rw [hstart, hid, push_name (client.api_mem_pushed _) (by decide),
      push_name (List.mem_append_left _ (client.api_mem_pushed _)) (by decide), List.append_assoc]
    rfl
  | detail id l =>
    simp only [target, endpoint, Url.extend, List.cons_append, List.nil_append, List.foldl_cons,
      List.foldl_nil, h.kind]
    rw [hstart, hid, push_name (client.api_mem_pushed _) (by decide)]
    rfl

theorem segments_target (hurl : ofUrl url = .ok client) (h : client.OnWeb) (call : Call) :
    Url.segments (client.target call).1.path = client.route call := by
  rw [target_eq hurl h]
  exact Url.segments_slashed (client.route_ne_nil call) (client.not_mem_route call)

/-! ## Requests -/

theorem query_withPairs (u : Url) (pairs : List (String × String)) :
    (u.withPairs pairs).query.getD [] = pairs.foldl Url.appendPair (u.query.getD []) := by
  unfold Url.withPairs
  dsimp only
  split
  · next hempty => exact (List.isEmpty_iff.mp hempty).symm
  · rfl

theorem prefix_appendPair (query : List Char) (p : String × String) :
    query <+: Url.appendPair query p := by
  unfold Url.appendPair
  split
  · next hempty =>
    rw [List.isEmpty_iff.mp hempty]
    exact List.nil_prefix
  · exact List.prefix_append _ _

theorem prefix_foldl_appendPair (query : List Char) (pairs : List (String × String)) :
    query <+: pairs.foldl Url.appendPair query := by
  induction pairs generalizing query with
  | nil => exact List.prefix_rfl
  | cons p pairs ih => exact (prefix_appendPair query p).trans (ih _)

/-- A request goes to the path that it is made for, and adds to the query. -/
theorem request_keeps {u : Url} {params : List (String × String)} {r : Request}
    (h : request u params = .ok r) :
    r.url.path = u.path ∧ u.query.getD [] <+: r.url.query.getD [] := by
  have hsame : u.withoutCredentials.path = u.path ∧ u.withoutCredentials.query = u.query := by
    unfold Url.withoutCredentials
    split
    · split <;> exact ⟨rfl, rfl⟩
    · exact ⟨rfl, rfl⟩
  unfold request at h
  split at h
  · cases h
  · dsimp only at h
    split at h
    · cases h
      refine ⟨hsame.1, ?_⟩
      rw [query_withPairs, hsame.2]
      exact prefix_foldl_appendPair _ _
    · cases h

/-! ## Ids -/

/-- The endpoint of a call: the base URL with the segments of the call for its path. Requests for it
go there, and keep the query of the base URL. -/
structure Endpoint (c : Client) (call : Call) (u : Url) : Prop where
  base : u = { c.base with path := u.path }
  segments : Url.segments u.path = c.route call
  request : ∀ {params r}, request u params = .ok r →
    r.url.path = u.path ∧ c.base.query.getD [] <+: r.url.query.getD []

theorem target_endpoint (hurl : ofUrl url = .ok client) (h : client.OnWeb) (call : Call) :
    client.Endpoint call (client.target call).1 where
  base := by rw [target_eq hurl h]
  segments := segments_target hurl h call
  request {params r} hr := by
    have hkeeps := request_keeps hr
    rwa [target_eq hurl h] at hkeeps ⊢

/-- The segments under which a plain id is asked for: its encoded form is one of them. -/
theorem route_plain (c : Client) {id : String} (hid : Url.Plain id.toList) (l : Locale) :
    c.route (.detail id l) = Url.root c.base.path ++
        ["api".toList, "apps".toList, Url.encodeSegment id.toList, []] ∧
      c.route (.similar id l) = Url.root c.base.path ++
        ["api".toList, "apps".toList, Url.encodeSegment id.toList, "similar".toList, []] := by
  simp only [route, apps, Url.pushed_plain hid, List.append_assoc]
  exact ⟨rfl, rfl⟩

/-- A URL with another path is another text. -/
theorem path_eq_of_text_eq {u : Url} {path path' : List Char}
    (h : ({ u with path } : Url).text = ({ u with path := path' } : Url).text) : path = path' := by
  have hchars : u.front ++ path ++ u.queryChars ++ u.fragmentChars =
      u.front ++ path' ++ u.queryChars ++ u.fragmentChars := String.ofList_injective h
  exact List.append_cancel_left (List.append_cancel_right (List.append_cancel_right hchars))

/-- Endpoints of calls with other segments are other URLs. -/
theorem text_target_ne (hurl : ofUrl url = .ok client) (h : client.OnWeb) {a b : Call}
    (hroute : client.route a ≠ client.route b) :
    (client.target a).1.text ≠ (client.target b).1.text := by
  intro htext
  rw [target_eq hurl h, target_eq hurl h] at htext
  apply hroute
  rw [← segments_target hurl h a, ← segments_target hurl h b, target_eq hurl h, target_eq hurl h]
  exact congrArg Url.segments (path_eq_of_text_eq htext)

theorem route_ne_of_length {c : Client} {a b : Call} (h : (c.route a).length ≠ (c.route b).length) :
    c.route a ≠ c.route b := fun heq => h (congrArg List.length heq)

/-- Plain ids lead apart: each to segments of its own, for details and for what is similar, and
neither to those of the listings. -/
theorem route_apart (c : Client) {id id' : String} (hid : Url.Plain id.toList)
    (hid' : Url.Plain id'.toList) (l l' : Locale) (q : ListQuery) :
    (id ≠ id' → c.route (.detail id l) ≠ c.route (.detail id' l') ∧
        c.route (.similar id l) ≠ c.route (.similar id' l')) ∧
      c.route (.detail id l) ≠ c.route (.similar id' l') ∧
      c.route (.detail id l) ≠ c.route (.list q) ∧ c.route (.similar id l) ≠ c.route (.list q) := by
  obtain ⟨hdetail, hsimilar⟩ := c.route_plain hid l
  obtain ⟨hdetail', hsimilar'⟩ := c.route_plain hid' l'
  have hlist : c.route (.list q) = Url.root c.base.path ++ ["api".toList, "apps".toList, []] := by
    rw [route, apps, List.append_assoc]
    rfl
  refine ⟨fun hne => ?_, ?_, ?_, ?_⟩
  · have hcodes : Url.encodeSegment id.toList ≠ Url.encodeSegment id'.toList :=
      fun heq => hne (String.toList_injective (Url.encodeSegment_injective heq))
    refine ⟨fun heq => hcodes ?_, fun heq => hcodes ?_⟩
    · rw [hdetail, hdetail', List.append_cancel_left_eq, List.cons_inj_right,
        List.cons_inj_right] at heq
      exact (List.cons.inj heq).1
    · rw [hsimilar, hsimilar', List.append_cancel_left_eq, List.cons_inj_right,
        List.cons_inj_right] at heq
      exact (List.cons.inj heq).1
  · exact route_ne_of_length (by simp [hdetail, hsimilar'])
  · exact route_ne_of_length (by simp [hdetail, hlist])
  · exact route_ne_of_length (by simp [hsimilar, hlist])

/-- **Where ids lead.** Every endpoint is the base URL with another path, in which an id comes
behind `apps` as `Url.pushed` says. A plain id is one segment there, which can be read back, so that
other ids lead to other URLs, and none to the listings or from the details to what is similar. The
ids `.` and `..` are not plain and lead to the listings. -/
theorem endpoints_of_ids (hurl : ofUrl url = .ok client) (h : client.OnWeb) :
    (∀ call, client.Endpoint call (client.target call).1) ∧
      (∀ id l, Url.Plain id.toList →
        client.route (.detail id l) = Url.root client.base.path ++
          ["api".toList, "apps".toList, Url.encodeSegment id.toList, []] ∧
        client.route (.similar id l) = Url.root client.base.path ++
          ["api".toList, "apps".toList, Url.encodeSegment id.toList, "similar".toList, []]) ∧
      (∀ cs, '/' ∉ Url.encodeSegment cs ∧ '?' ∉ Url.encodeSegment cs ∧ '#' ∉ Url.encodeSegment cs ∧
        Text.Utf8.decode (Url.percentDecode (Url.encodeSegment cs)) = some cs) ∧
      (∀ id id' l l' q, Url.Plain id.toList → Url.Plain id'.toList →
        (id ≠ id' →
          (client.target (.detail id l)).1.text ≠ (client.target (.detail id' l')).1.text ∧
          (client.target (.similar id l)).1.text ≠ (client.target (.similar id' l')).1.text) ∧
        (client.target (.detail id l)).1.text ≠ (client.target (.similar id' l')).1.text ∧
        (client.target (.detail id l)).1.text ≠ (client.target (.list q)).1.text ∧
        (client.target (.similar id l)).1.text ≠ (client.target (.list q)).1.text) ∧
      ∀ id l q, id = "." ∨ id = ".." →
        (client.target (.detail id l)).1 = (client.target (.list q)).1 := by
  refine ⟨target_endpoint hurl h, fun id l hid => client.route_plain hid l, Url.encodeSegment_clean,
    ?_, ?_⟩
  · intro id id' l l' q hid hid'
    obtain ⟨hother, hkinds, hdetail, hsimilar⟩ := client.route_apart hid hid' l l' q
    refine ⟨fun hne => ?_, text_target_ne hurl h hkinds, text_target_ne hurl h hdetail,
      text_target_ne hurl h hsimilar⟩
    exact ⟨text_target_ne hurl h (hother hne).1, text_target_ne hurl h (hother hne).2⟩
  · intro id l q hdots
    have hroute : client.route (.detail id l) = client.route (.list q) := by
      rcases hdots with rfl | rfl <;> rfl
    rw [target_eq hurl h, target_eq hurl h, hroute]

/-- A catalog on this host, below a path and with a query. -/
def onHost : Client where
  base :=
    { scheme := "http".toList
      authority := some { host := some (.ipv6 [0, 0, 0, 0, 0, 0, 0, 1]) }
      path := "/v1/".toList
      query := some "key=1".toList
      fragment := none }

theorem ofUrl_onHost : ofUrl "http://[::1]/v1/?key=1" = .ok onHost := by
  have hparse : Url.parse "http://[::1]/v1/?key=1" = .ok onHost.base := by decide +kernel
  have hpath : onHost.base.isOpaque = false := by decide
  simp only [ofUrl, hparse, hpath, Bool.false_eq_true, if_false]

/-- An id with reserved characters in it leads to details of its own. -/
theorem endpoints_of_ids_reserved :
    ofUrl "http://[::1]/v1/?key=1" = .ok onHost ∧ onHost.OnWeb ∧ Url.Plain "a/..?".toList ∧
      Url.segments (onHost.target (.detail "a/..?" ⟨"en", "at"⟩)).1.path =
        ["v1".toList, "api".toList, "apps".toList, "a%2F..%3F".toList, []] ∧
      (onHost.target (.detail "a/..?" ⟨"en", "at"⟩)).1.text ≠
        (onHost.target (.detail "a" ⟨"en", "at"⟩)).1.text := by
  have hweb : onHost.OnWeb := .inl rfl
  have hid : Url.Plain "a/..?".toList := ⟨by decide, by decide, by decide⟩
  have hid' : Url.Plain "a".toList := ⟨by decide, by decide, by decide⟩
  obtain ⟨hendpoint, hroute, -, hapart, -⟩ := endpoints_of_ids ofUrl_onHost hweb
  refine ⟨ofUrl_onHost, hweb, hid, ?_, ?_⟩
  · rw [(hendpoint _).segments, (hroute _ _ hid).1]
    decide
  · exact ((hapart _ _ _ _ ⟨"GAME", "TOP_FREE", 1, ⟨"en", "at"⟩⟩ hid hid').1 (by decide)).1

/-- A dot leads to the listings, a tab is lost, and a tab with two dots behind it leads
out of `apps`. -/
theorem id_changes_endpoint :
    ofUrl "http://[::1]/v1/?key=1" = .ok onHost ∧
      (onHost.target (.detail "." ⟨"en", "at"⟩)).1.text =
        (onHost.target (.list ⟨"GAME", "TOP_FREE", 200, ⟨"en", "at"⟩⟩)).1.text ∧
      (onHost.target (.detail "a\tb" ⟨"en", "at"⟩)).1.text =
        (onHost.target (.detail "ab" ⟨"en", "at"⟩)).1.text ∧
      (onHost.target (.detail "\t.." ⟨"en", "at"⟩)).1.text = "http://[::1]/v1/api//?key=1" :=
  ⟨ofUrl_onHost, by decide +kernel, by decide +kernel, by decide +kernel⟩

end Client

end CatalogCrawl
