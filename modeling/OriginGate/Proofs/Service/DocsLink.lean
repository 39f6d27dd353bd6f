import OriginGate.Proofs.Json.Path
import OriginGate.Proofs.Service.Links

/-!
# The link to the documentation

The service tells where its documentation is. The link is the path as it was configured, with or
without a slash at its end; the page itself has a slash there, so that the files of the page are
found below it, and a link without the slash is redirected to the page once.

Clients take the place that they are redirected to for a reference, and mostly the link as well: two
slashes at its start lead to another authority, and dots lead to another path. No path is requested
that is longer than a target may be.

* `Service.isPage_of_gets`, `redirectsTo_of_gets`, `not_isHtml_of_gets`: one request for the page, for
  its path without the slash, and for any other path.
* `Service.isPage_of_reaches`, `exists_reaches_concat`, `not_isHtml_of_outside`: what is reached by
  following links to them.
* `Service.docs_link_resolves`: where the documentation can be mounted, and when the link leads to
  the page.
* `Service.docs_link_dead_ends`: links that lead nowhere, one of each kind.
-/

namespace OriginGate

open Http Json Metrics Text

/-- A client: which authorities it takes for those of the service, and what it sends with each
request. -/
structure Client where
  isOwn : List Char → Bool
  fields : Fields
  body : List UInt8

namespace Service

/-! ## Following a link -/

/-- The client asks for the target and gets the response; what was counted changes from the one
recorder to the other. -/
def Gets (s : Service) (k : Client) (target : List Char) (before : Recorder) (response : Response)
    (after : Recorder) : Prop :=
  ∃ uri, Uri.read target = .ok uri ∧
    (s.attempt ⟨.get, uri, k.fields, k.body⟩).run.run before = (.ok response, after)

/-- The response is a page. -/
structure IsHtml (response : Response) : Prop where
  status : response.status = 200
  mediaType : response.fields.getAll .contentType = [.ofString "text/html"]

/-- The response is the page of the documentation. -/
structure IsPage (response : Response) : Prop extends IsHtml response where
  body : response.body = Docs.indexPage.content

/-- The response sends the reader to another place. -/
structure RedirectsTo (link : List Char) (response : Response) : Prop where
  status : response.status = 303
  location : ∃ v : FieldValue, response.fields.getAll .location = [v] ∧ v.bytes = Utf8.encode link

/-- The client follows the link in this manner, and then the redirects of the trail, and gets the
response in the end. What it is redirected to is a reference. -/
inductive Reaches (s : Service) (k : Client) :
    Reference.Manner → List Char → Recorder → List (List Char) → Response → Prop where
  | arrives {manner : Reference.Manner} {link target : List Char} {before after : Recorder}
    {response : Response} (htarget : manner.target? k.isOwn link = some target)
    (h : s.Gets k target before response after) : Reaches s k manner link before [] response
  | redirected {manner : Reference.Manner} {link target next : List Char}
    {before after : Recorder} {redirect response : Response} {trail : List (List Char)}
    (htarget : manner.target? k.isOwn link = some target)
    (h : s.Gets k target before redirect after) (hnext : RedirectsTo next redirect)
    (hrest : Reaches s k .reference next after trail response) :
    Reaches s k manner link before (next :: trail) response

/-- The service tells this link to its documentation. -/
def TellsLink (s : Service) (link : String) : Prop :=
  ∀ k before, ∃ response after, s.Gets k ['/'] before response after ∧ response.status = 200 ∧
    ∃ v, readBytes? response.body = some v ∧ v.member? "docs" = some (.string link)

/-- The link, and the place that it is redirected to, are taken for what they were meant. -/
structure IsFollowable (manner : Reference.Manner) (link : List Char) : Prop where
  /-- What is taken for a reference names no authority: with a slash at its end, a link that is put
  after the address of the service is never taken so. -/
  noAuthority : manner = .reference ∨ link.getLast? ≠ some '/' → ¬ ['/', '/'] <+: link
  noDots : ¬ Reference.HasDots link
  short : (Utf8.encode (docsBase link ++ ['/'])).length ≤ Uri.maxLength

/-- What a client is redirected to between the link and the page. -/
def trailOf (link : List Char) : List (List Char) :=
  if link.getLast? = some '/' then [] else [link ++ ['/']]

/-! ## Single requests -/

section Requests

variable {s : Service} {r : Request}

theorem isPage_respond (hget : r.method = .get)
    (h : s.endpoint? r.uri.path = some (.docsFile, [])) (rec : Recorder) :
    IsPage ((s.respond r).run rec).1 := by
  have hread : isRead r.method = true := isRead_iff.2 (.inl hget)
  have hpre : isPreflight r = false := not_isPreflight_of_isRead hread
  have hplain : s.plain r = content 200 (.ofString "text/html") Docs.indexPage.content :=
    plain_of_isRead h hread
  refine { status := ?status, mediaType := ?mediaType, body := ?body }
  case status =>
    rw [s.status_respond hpre rec, hplain]
    rfl
  case mediaType =>
    rw [s.getAll_contentType_respond hpre rec, hplain]
    exact Fields.getAll_cons_self _ _ _
  case body =>
    rw [s.body_respond_get hget rec, hplain, content]

theorem redirectsTo_respond (hget : r.method = .get)
    (h : s.endpoint? r.uri.path = some (.docsEntry, [])) {location : FieldValue}
    (hlocation : pageLocation? s.metadata = some location) (rec : Recorder) :
    RedirectsTo (docsBase s.metadata.docsPath.toList ++ ['/']) ((s.respond r).run rec).1 := by
  have hpre : isPreflight r = false := not_isPreflight_of_isRead (isRead_iff.2 (.inl hget))
  constructor
  case status =>
    rw [s.status_respond hpre rec, plain_docsEntry h (.inl hget) hlocation]
    rfl
  case location =>
    exact ⟨location, getAll_location_respond hpre rec h (.inl hget) hlocation,
      FieldValue.bytes_of_ofText? hlocation⟩

/-- A redirect is no page. -/
theorem RedirectsTo.not_isHtml {link : List Char} {response : Response}
    (h : RedirectsTo link response) : ¬ IsHtml response :=
  fun hhtml => absurd (hhtml.status.symm.trans h.status) (by decide)

/-- A redirect leads to one place. -/
theorem RedirectsTo.unique {link link' : List Char} {response : Response}
    (h : RedirectsTo link response) (h' : RedirectsTo link' response) : link = link' := by
  obtain ⟨v, hv, hbytes⟩ := h.location
  obtain ⟨v', hv', hbytes'⟩ := h'.location
  obtain rfl := List.singleton_inj.1 (hv.symm.trans hv')
  exact Utf8.encode_injective (hbytes.symm.trans hbytes')

end Requests

section Built

variable {m : Metadata} {p : Policy} {assets : List Docs.File} {s : Service} {k : Client}
  {before after : Recorder} {response : Response}

theorem exists_pageLocation? (hm : IsLinkPath m.docsPath.toList) (hs : build m p assets = .ok s) :
    ∃ location, pageLocation? s.metadata = some location := by
  rw [metadata_of_build hs]
  exact FieldValue.ofText?_of_isGraphic (hm.base (ne_slash_of_build hs)).concat.isGraphic

theorem gets_iff (hm : IsLinkPath m.docsPath.toList) (hs : build m p assets = .ok s)
    {path : List Char} (h : IsLinkPath path) :
    s.Gets k path before response after ↔
      (Utf8.encode path).length ≤ Uri.maxLength ∧
        (s.respond ⟨.get, ⟨path, none⟩, k.fields, k.body⟩).run before = (response, after) := by
  obtain ⟨location, hlocation⟩ := exists_pageLocation? hm hs
  rw [Gets, Uri.read_of_isMountPath h.isMountPath]
  split
  case isTrue hlong =>
    refine iff_of_false ?_ fun hgets => Nat.not_le_of_lt hlong hgets.1
    rintro ⟨uri, huri, -⟩
    cases huri
  case isFalse hshort =>
    simp only [run_attempt (breaksOff?_of_pageLocation? hlocation _)]
    constructor
    · rintro ⟨uri, huri, hrun⟩
      obtain rfl := Except.ok.inj huri
      cases hrun
      exact ⟨Nat.le_of_not_lt hshort, rfl⟩
    · rintro ⟨-, hrun⟩
      refine ⟨_, rfl, ?_⟩
      rw [hrun]

/-- What can be asked for is answered. -/
theorem exists_gets (hm : IsLinkPath m.docsPath.toList) (hs : build m p assets = .ok s)
    {path : List Char} (h : IsLinkPath path)
    (hshort : (Utf8.encode path).length ≤ Uri.maxLength) (k : Client) (before : Recorder) :
    ∃ response after, s.Gets k path before response after :=
  ⟨_, _, (gets_iff hm hs h).2 ⟨hshort, rfl⟩⟩

theorem tellsLink_of_build (hm : IsLinkPath m.docsPath.toList) (hs : build m p assets = .ok s) :
    s.TellsLink m.docsPath := by
  intro k before
  have hroot : IsLinkPath ['/'] := ⟨[], rfl, nofun⟩
  obtain ⟨response, after, hgets⟩ := exists_gets hm hs hroot (by decide) k before
  refine ⟨response, after, hgets, ?_⟩
  have hfound : s.endpoint? ['/'] = some (.root, []) := endpoint?_own hs (by decide)
  have hplain : s.plain ⟨.get, ⟨['/'], none⟩, k.fields, k.body⟩ =
      jsonResponse 200 (rootDocument m) := by
    rw [plain_of_isRead hfound rfl, read, metadata_of_build hs]
  have hholds := s.holds_respond rfl hplain before
  rw [((gets_iff hm hs hroot).1 hgets).2] at hholds
  exact ⟨hholds.status, rootDocument m, hholds.body, rfl⟩

theorem isPage_of_gets (hm : IsLinkPath m.docsPath.toList) (hs : build m p assets = .ok s)
    (h : s.Gets k (docsBase m.docsPath.toList ++ ['/']) before response after) :
    (Utf8.encode (docsBase m.docsPath.toList ++ ['/'])).length ≤ Uri.maxLength ∧
      IsPage response := by
  have hbase := hm.base (ne_slash_of_build hs)
  have hfound : s.endpoint? (docsBase m.docsPath.toList ++ ['/']) = some (.docsFile, []) :=
    endpoint?_mounted hm.isMountPath hs (by simp [mountedPaths])
  obtain ⟨hshort, hrun⟩ := (gets_iff hm hs hbase.concat).1 h
  have hpage := isPage_respond (r := ⟨.get, ⟨docsBase m.docsPath.toList ++ ['/'], none⟩, k.fields,
    k.body⟩) rfl hfound before
  rw [hrun] at hpage
  exact ⟨hshort, hpage⟩

theorem redirectsTo_of_gets (hm : IsLinkPath m.docsPath.toList) (hs : build m p assets = .ok s)
    (h : s.Gets k (docsBase m.docsPath.toList) before response after) :
    RedirectsTo (docsBase m.docsPath.toList ++ ['/']) response := by
  have hbase := hm.base (ne_slash_of_build hs)
  have hfound : s.endpoint? (docsBase m.docsPath.toList) = some (.docsEntry, []) :=
    endpoint?_mounted hm.isMountPath hs (by simp [mountedPaths])
  obtain ⟨location, hlocation⟩ := exists_pageLocation? hm hs
  have hredirects := redirectsTo_respond (r := ⟨.get, ⟨docsBase m.docsPath.toList, none⟩, k.fields,
    k.body⟩) rfl hfound hlocation before
  rwa [((gets_iff hm hs hbase).1 h).2, metadata_of_build hs] at hredirects

/-- Outside the documentation no response is a page, and none is a redirect. -/
theorem not_isHtml_of_gets (hm : IsLinkPath m.docsPath.toList) (hs : build m p assets = .ok s)
    {target : List Char} (htarget : IsLinkPath target)
    (hout : IsOutside (docsBase m.docsPath.toList) target)
    (h : s.Gets k target before response after) :
    ¬ IsHtml response ∧ ∀ link, ¬ RedirectsTo link response := by
  let r : Request := ⟨.get, ⟨target, none⟩, k.fields, k.body⟩
  have hpre : isPreflight r = false := not_isPreflight_of_isRead rfl
  obtain ⟨status, v, hplain, hstatus⟩ := plain_outside (r := r) hm.isMountPath hs rfl hout
  have hrun := ((gets_iff hm hs htarget).1 h).2
  constructor
  · intro hhtml
    have hjson : (jsonResponse status v).fields.getAll .contentType =
        [.ofString "application/json"] := Fields.getAll_cons_self _ _ _
    have hmedia := s.getAll_contentType_respond hpre before
    rw [hrun, hplain, hjson, hhtml.mediaType] at hmedia
    exact absurd hmedia (by decide)
  · intro link hredirects
    have hsame := s.status_respond hpre before
    rw [hrun, hplain, hredirects.status] at hsame
    exact hstatus hsame.symm

/-! ## What is reached -/

section Pages

variable {manner : Reference.Manner} {trail : List (List Char)}

theorem not_isHtml_of_outside (hm : IsLinkPath m.docsPath.toList)
    (hs : build m p assets = .ok s) {link : List Char} (hlink : IsLinkPath link)
    (hout : ∀ target, manner.target? k.isOwn link = some target →
      IsOutside (docsBase m.docsPath.toList) target)
    (h : s.Reaches k manner link before trail response) : ¬ IsHtml response := by
  cases h with
  | arrives htarget h =>
    exact (not_isHtml_of_gets hm hs (hlink.target htarget) (hout _ htarget) h).1
  | redirected htarget h hnext _ =>
    exact absurd hnext ((not_isHtml_of_gets hm hs (hlink.target htarget) (hout _ htarget) h).2 _)

theorem docsBase_ne_slash_of_build (hm : IsLinkPath m.docsPath.toList)
    (hs : build m p assets = .ok s) : docsBase m.docsPath.toList ≠ ['/'] := by
  have hfree := (exists_build_iff assets hm.isMountPath (build_eq_ok_iff.1 hs).2.1).1 ⟨s, hs⟩
  exact fun heq => hfree (heq ▸ by decide)

theorem not_isHtml_of_hasDots (hm : IsLinkPath m.docsPath.toList)
    (hs : build m p assets = .ok s) (hdots : Reference.HasDots m.docsPath.toList)
    (h : s.Reaches k manner m.docsPath.toList before trail response) : ¬ IsHtml response := by
  have hne := ne_slash_of_build hs
  refine not_isHtml_of_outside hm hs hm (fun target htarget => ?_) h
  obtain ⟨path, -, rfl⟩ := manner.exists_of_target? htarget
  exact isOutside_of_hasDots (hm.base hne) ((hasDots_docsBase hm hne).2 hdots) path

theorem not_isHtml_of_authority (hm : IsLinkPath m.docsPath.toList)
    (hs : build m p assets = .ok s) {link : List Char} (hlink : IsLinkPath link)
    (hbase : docsBase link = docsBase m.docsPath.toList) (hauthority : ['/', '/'] <+: link)
    (h : s.Reaches k .reference link before trail response) : ¬ IsHtml response := by
  have hne := docsBase_ne_slash_of_build hm hs
  rw [← hbase] at hne
  refine not_isHtml_of_outside hm hs hlink (fun target htarget => ?_) h
  rw [← hbase]
  exact isOutside_of_authority hauthority hne htarget

/-- From the path of the page, if that is what is asked for, the page is reached at once. -/
theorem isPage_of_reaches (hm : IsLinkPath m.docsPath.toList) (hs : build m p assets = .ok s)
    {page : List Char} (hpage : docsBase m.docsPath.toList ++ ['/'] = page)
    (htarget : manner.target? k.isOwn page = some page)
    (h : s.Reaches k manner page before trail response) :
    (Utf8.encode page).length ≤ Uri.maxLength ∧ trail = [] ∧ IsPage response := by
  subst hpage
  cases h with
  | arrives hasked h =>
    obtain rfl := Option.some.inj (htarget.symm.trans hasked)
    obtain ⟨hshort, hpage⟩ := isPage_of_gets hm hs h
    exact ⟨hshort, rfl, hpage⟩
  | redirected hasked h hnext _ =>
    obtain rfl := Option.some.inj (htarget.symm.trans hasked)
    exact absurd (isPage_of_gets hm hs h).2.toIsHtml hnext.not_isHtml

theorem exists_reaches_page (hm : IsLinkPath m.docsPath.toList) (hs : build m p assets = .ok s)
    {page : List Char} (hpage : docsBase m.docsPath.toList ++ ['/'] = page)
    (htarget : manner.target? k.isOwn page = some page)
    (hshort : (Utf8.encode page).length ≤ Uri.maxLength) (before : Recorder) :
    ∃ response, s.Reaches k manner page before [] response ∧ IsPage response := by
  subst hpage
  have hbase := hm.base (ne_slash_of_build hs)
  obtain ⟨response, after, hgets⟩ := exists_gets hm hs hbase.concat hshort k before
  exact ⟨response, .arrives htarget hgets, (isPage_of_gets hm hs hgets).2⟩

/-- From the path without the slash pages are reached by way of the path with it. -/
theorem exists_reaches_concat (hm : IsLinkPath m.docsPath.toList) (hs : build m p assets = .ok s)
    {entry : List Char} (hentry : docsBase m.docsPath.toList = entry)
    (htarget : manner.target? k.isOwn entry = some entry)
    (h : s.Reaches k manner entry before trail response) (hhtml : IsHtml response) :
    ∃ between rest, trail = (entry ++ ['/']) :: rest ∧
      s.Reaches k .reference (entry ++ ['/']) between rest response := by
  subst hentry
  cases h with
  | arrives hasked h =>
    obtain rfl := Option.some.inj (htarget.symm.trans hasked)
    exact absurd hhtml (redirectsTo_of_gets hm hs h).not_isHtml
  | redirected hasked h hnext hrest =>
    obtain rfl := Option.some.inj (htarget.symm.trans hasked)
    obtain rfl := (redirectsTo_of_gets hm hs h).unique hnext
    exact ⟨_, _, rfl, hrest⟩

theorem exists_reaches_entry (hm : IsLinkPath m.docsPath.toList) (hs : build m p assets = .ok s)
    {entry : List Char} (hentry : docsBase m.docsPath.toList = entry)
    (htarget : manner.target? k.isOwn entry = some entry)
    (hshort : (Utf8.encode entry).length ≤ Uri.maxLength)
    (hrest : ∀ between, ∃ response,
      s.Reaches k .reference (entry ++ ['/']) between [] response ∧ IsPage response)
    (before : Recorder) :
    ∃ response, s.Reaches k manner entry before [entry ++ ['/']] response ∧ IsPage response := by
  subst hentry
  have hbase := hm.base (ne_slash_of_build hs)
  obtain ⟨redirect, between, hgets⟩ := exists_gets hm hs hbase hshort k before
  obtain ⟨response, hreaches, hpage⟩ := hrest between
  exact ⟨response, .redirected htarget hgets (redirectsTo_of_gets hm hs hgets) hreaches, hpage⟩

/-! ## The link -/

theorem isFollowable_of_slash (hm : IsLinkPath m.docsPath.toList) (hs : build m p assets = .ok s)
    (hslash : m.docsPath.toList.getLast? = some '/')
    (h : s.Reaches k manner m.docsPath.toList before trail response) (hhtml : IsHtml response) :
    IsFollowable manner m.docsPath.toList ∧ trail = [] ∧ IsPage response := by
  have hpage := docsBase_append_slash hslash
  have hdots := fun hdots => not_isHtml_of_hasDots hm hs hdots h hhtml
  have hauthority : manner = .reference → ¬ ['/', '/'] <+: m.docsPath.toList := by
    rintro rfl hauthority
    exact not_isHtml_of_authority hm hs hm rfl hauthority h hhtml
  have htarget := hm.target?_eq k.isOwn hauthority hdots
  obtain ⟨hshort, htrail, hresponse⟩ := isPage_of_reaches hm hs hpage htarget h
  refine ⟨{ noAuthority := ?_, noDots := hdots, short := ?_ }, htrail, hresponse⟩
  · exact fun hmanner => hauthority (hmanner.resolve_right (not_not_intro hslash))
  · rwa [hpage]

theorem exists_reaches_of_slash (hm : IsLinkPath m.docsPath.toList) (hs : build m p assets = .ok s)
    (hslash : m.docsPath.toList.getLast? = some '/')
    (h : IsFollowable manner m.docsPath.toList) (k : Client) (before : Recorder) :
    ∃ response, s.Reaches k manner m.docsPath.toList before [] response ∧ IsPage response := by
  have hpage := docsBase_append_slash hslash
  have hshort := h.short
  rw [hpage] at hshort
  have htarget := hm.target?_eq k.isOwn (fun hmanner => h.noAuthority (.inl hmanner)) h.noDots
  exact exists_reaches_page hm hs hpage htarget hshort before

/-- Without a slash at its end the link is asked for, and then what it is redirected to. -/
theorem targets_of_no_slash (hm : IsLinkPath m.docsPath.toList) (hs : build m p assets = .ok s)
    (hslash : m.docsPath.toList.getLast? ≠ some '/')
    (hauthority : ¬ ['/', '/'] <+: m.docsPath.toList)
    (hdots : ¬ Reference.HasDots m.docsPath.toList) (k : Client) (manner : Reference.Manner) :
    manner.target? k.isOwn m.docsPath.toList = some m.docsPath.toList ∧
      Reference.Manner.reference.target? k.isOwn (m.docsPath.toList ++ ['/']) =
        some (m.docsPath.toList ++ ['/']) := by
  have hne := docsBase_ne_slash_of_build hm hs
  rw [docsBase_of_no_slash hslash] at hne
  have hconcat := fun h => hauthority ((hm.authority_concat_iff hne).1 h)
  refine ⟨hm.target?_eq k.isOwn (fun _ => hauthority) hdots,
    hm.concat.target?_eq k.isOwn (fun _ => hconcat) ?_⟩
  rwa [hm.hasDots_concat_iff]

theorem isFollowable_of_no_slash (hm : IsLinkPath m.docsPath.toList)
    (hs : build m p assets = .ok s) (hslash : m.docsPath.toList.getLast? ≠ some '/')
    (h : s.Reaches k manner m.docsPath.toList before trail response) (hhtml : IsHtml response) :
    IsFollowable manner m.docsPath.toList ∧ trail = [m.docsPath.toList ++ ['/']] ∧
      IsPage response := by
  have hentry := docsBase_of_no_slash hslash
  have hpage : docsBase m.docsPath.toList ++ ['/'] = m.docsPath.toList ++ ['/'] := by rw [hentry]
  have hdots := fun hdots => not_isHtml_of_hasDots hm hs hdots h hhtml
  have hauthority : ¬ ['/', '/'] <+: m.docsPath.toList := by
    intro hauthority
    cases manner with
    | reference => exact not_isHtml_of_authority hm hs hm rfl hauthority h hhtml
    | appended =>
      -- the link is asked for as it is, but not the place that it is redirected to
      have htarget : Reference.Manner.appended.target? k.isOwn m.docsPath.toList =
          some m.docsPath.toList := hm.target?_eq k.isOwn nofun hdots
      obtain ⟨between, rest, -, hrest⟩ := exists_reaches_concat hm hs hentry htarget h hhtml
      refine not_isHtml_of_authority hm hs hm.concat ?_
        (hauthority.trans (List.prefix_append _ _)) hrest hhtml
      rw [docsBase_concat, hentry]
  obtain ⟨htarget, hnext⟩ := targets_of_no_slash hm hs hslash hauthority hdots k manner
  obtain ⟨between, rest, rfl, hrest⟩ := exists_reaches_concat hm hs hentry htarget h hhtml
  obtain ⟨hshort, rfl, hresponse⟩ := isPage_of_reaches hm hs hpage hnext hrest
  refine ⟨{ noAuthority := fun _ => hauthority, noDots := hdots, short := ?_ }, rfl, hresponse⟩
  rwa [hpage]

theorem exists_reaches_of_no_slash (hm : IsLinkPath m.docsPath.toList)
    (hs : build m p assets = .ok s) (hslash : m.docsPath.toList.getLast? ≠ some '/')
    (h : IsFollowable manner m.docsPath.toList) (k : Client) (before : Recorder) :
    ∃ response, s.Reaches k manner m.docsPath.toList before [m.docsPath.toList ++ ['/']] response ∧
      IsPage response := by
  have hentry := docsBase_of_no_slash hslash
  have hpage : docsBase m.docsPath.toList ++ ['/'] = m.docsPath.toList ++ ['/'] := by rw [hentry]
  have hlong := h.short
  rw [hpage] at hlong
  -- what is too long without the slash is too long with it
  have hshort : (Utf8.encode m.docsPath.toList).length ≤ Uri.maxLength := by
    rw [Utf8.encode_append, List.length_append] at hlong
    exact Nat.le_trans (Nat.le_add_right _ _) hlong
  obtain ⟨htarget, hnext⟩ :=
    targets_of_no_slash hm hs hslash (h.noAuthority (.inr hslash)) h.noDots k manner
  exact exists_reaches_entry hm hs hentry htarget hshort
    (exists_reaches_page hm hs hpage hnext hlong) before

theorem isFollowable_of_reaches (hm : IsLinkPath m.docsPath.toList)
    (hs : build m p assets = .ok s)
    (h : s.Reaches k manner m.docsPath.toList before trail response) (hhtml : IsHtml response) :
    IsFollowable manner m.docsPath.toList ∧ trail = trailOf m.docsPath.toList ∧
      IsPage response := by
  unfold trailOf
  split
  · rename_i hslash
    exact isFollowable_of_slash hm hs hslash h hhtml
  · rename_i hslash
    exact isFollowable_of_no_slash hm hs hslash h hhtml

theorem exists_reaches (hm : IsLinkPath m.docsPath.toList) (hs : build m p assets = .ok s)
    (h : IsFollowable manner m.docsPath.toList) (k : Client) (before : Recorder) :
    ∃ response, s.Reaches k manner m.docsPath.toList before (trailOf m.docsPath.toList) response ∧
      IsPage response := by
  unfold trailOf
  split
  · rename_i hslash
    exact exists_reaches_of_slash hm hs hslash h k before
  · rename_i hslash
    exact exists_reaches_of_no_slash hm hs hslash h k before

end Pages

end Built

/-- The documentation can be mounted at every path but those of the documents. A client that follows
its link reaches the page if the link can be followed, at once with a slash at its end and else
after one redirect to it with the slash; no client reaches any other page. -/
theorem docs_link_resolves {m : Metadata} {p : Policy} (assets : List Docs.File)
    (hm : IsLinkPath m.docsPath.toList) (hp : p.conflict? = none) :
    ((∃ fault, build m p assets = .error fault) ↔
        docsBase m.docsPath.toList ∈ ["", "/", "/health", "/openapi.json"].map String.toList) ∧
      ∀ s, build m p assets = .ok s →
        s.TellsLink m.docsPath ∧
          ∀ k manner before,
            (∀ trail,
              (∃ response, s.Reaches k manner m.docsPath.toList before trail response ∧
                  IsPage response) ↔
                IsFollowable manner m.docsPath.toList ∧ trail = trailOf m.docsPath.toList) ∧
            ∀ trail response, s.Reaches k manner m.docsPath.toList before trail response →
              IsHtml response → IsPage response := by
  refine ⟨?_, fun s hs => ⟨tellsLink_of_build hm hs, fun k manner before =>
    ⟨fun trail => ?_, fun trail response hreaches hhtml => ?_⟩⟩⟩
  · rw [← not_iff_not, ← exists_build_iff assets hm.isMountPath hp]
    cases build m p assets with
    | error fault => simp
    | ok s => simp
  · constructor
    · rintro ⟨response, hreaches, hpage⟩
      obtain ⟨hfollowable, htrail, -⟩ := isFollowable_of_reaches hm hs hreaches hpage.toIsHtml
      exact ⟨hfollowable, htrail⟩
    · rintro ⟨hfollowable, rfl⟩
      exact exists_reaches hm hs hfollowable k before
  · exact (isFollowable_of_reaches hm hs hreaches hhtml).2.2

/-- A path that begins like that of a document, with slashes in a row: the link is redirected
once, whoever follows it and in whichever manner. -/
theorem docs_link_resolves_slashes :
    let m : Metadata := { docsPath := "/health//~docs" }
    let p : Policy := ⟨[.ofString "http://a"], true, .any, .any, 5⟩
    (IsLinkPath m.docsPath.toList ∧ p.conflict? = none) ∧
      ∃ s, build m p [] = .ok s ∧ s.TellsLink "/health//~docs" ∧
        ∀ k manner before, ∃ response, IsPage response ∧
          s.Reaches k manner "/health//~docs".toList before ["/health//~docs/".toList]
            response := by
  intro m p
  have hm : IsLinkPath "/health//~docs".toList :=
    isLinkPath_of_all "health//~docs".toList (by decide)
  obtain ⟨hfault, hbuilt⟩ := docs_link_resolves (m := m) (p := p) [] hm rfl
  cases hs : build m p [] with
  | error fault => exact absurd (hfault.1 ⟨fault, hs⟩) (by decide)
  | ok s =>
    obtain ⟨hlink, hreaches⟩ := hbuilt s hs
    refine ⟨⟨hm, rfl⟩, s, rfl, hlink, fun k manner before => ?_⟩
    have hfollowable : IsFollowable manner m.docsPath.toList :=
      { noAuthority := fun _ => by decide, noDots := by decide, short := by decide }
    obtain ⟨response, hpath, hpage⟩ :=
      ((hreaches k manner before).1 ["/health//~docs/".toList]).2 ⟨hfollowable, by decide⟩
    exact ⟨response, hpage, hpath⟩

/-! ## Links that lead nowhere -/

/-- The documentation can be mounted at the path and the service tells it as its link, but no client
that follows it, in whatever manner, reaches a page. -/
def IsDeadEnd (link : List Char) : Prop :=
  IsLinkPath link ∧ docsBase link ∉ ["", "/", "/health", "/openapi.json"].map String.toList ∧
    ∃ s, build { docsPath := String.ofList link } ⟨[], false, .any, .any, 0⟩ [] = .ok s ∧
      s.TellsLink (String.ofList link) ∧
        ∀ k manner before trail response, s.Reaches k manner link before trail response →
          ¬ IsHtml response

theorem isDeadEnd_of_not_isFollowable {link : List Char} (hlink : IsLinkPath link)
    (hfree : docsBase link ∉ ["", "/", "/health", "/openapi.json"].map String.toList)
    (h : ∀ manner, ¬ IsFollowable manner link) : IsDeadEnd link := by
  let m : Metadata := { docsPath := String.ofList link }
  have htext : m.docsPath.toList = link := String.toList_ofList
  have hm : IsLinkPath m.docsPath.toList := htext ▸ hlink
  obtain ⟨s, hs⟩ := (exists_build_iff (p := ⟨[], false, .any, .any, 0⟩) [] hm.isMountPath rfl).2
    (htext ▸ hfree)
  refine ⟨hlink, hfree, s, hs, tellsLink_of_build hm hs, ?_⟩
  intro k manner before trail response hreaches hhtml
  rw [← htext] at hreaches h
  exact h manner (isFollowable_of_reaches hm hs hreaches hhtml).1

/-- A path of one long piece. -/
def longPath (n : Nat) : List Char :=
  '/' :: List.replicate n 'a'

theorem isLinkPath_longPath (n : Nat) : IsLinkPath (longPath n) := by
  refine ⟨_, rfl, fun c hc => .inr ?_⟩
  rw [List.eq_of_mem_replicate hc]
  decide

theorem length_longPath (n : Nat) : (longPath n).length = n + 1 := by
  rw [longPath, List.length_cons, List.length_replicate]

theorem length_encode_longPath (n : Nat) : (Utf8.encode (longPath n)).length = n + 1 := by
  have hascii : ∀ c ∈ longPath n, c.toNat < 0x80 := by
    intro c hc
    rcases List.mem_cons.1 hc with rfl | hc
    · decide
    · rw [List.eq_of_mem_replicate hc]
      decide
  rw [Utf8.length_encode_of_ascii hascii, length_longPath]

theorem docsBase_longPath {n : Nat} (hn : n ≠ 0) : docsBase (longPath n) = longPath n := by
  refine docsBase_of_no_slash ?_
  rw [longPath, List.getLast?_cons, List.getLast?_replicate, if_neg hn]
  decide

/-- The shortest link that can be requested, but not the place that it is redirected to. -/
theorem isDeadEnd_longPath : IsDeadEnd (longPath 65533) := by
  have hlink : IsLinkPath (longPath 65533) := isLinkPath_longPath 65533
  have hlength : (longPath 65533).length = 65533 + 1 := length_longPath 65533
  have hbytes : (Utf8.encode (longPath 65533)).length = Uri.maxLength :=
    length_encode_longPath 65533
  have hbase : docsBase (longPath 65533) = longPath 65533 := docsBase_longPath (by decide)
  -- nothing else is needed of the link, and its letters must not be unfolded
  generalize longPath 65533 = link at *
  refine isDeadEnd_of_not_isFollowable hlink (fun hmem => ?_) fun manner hfollowable => ?_
  · have hshort : ∀ path ∈ ["", "/", "/health", "/openapi.json"].map String.toList,
        path.length < 65533 + 1 := by decide
    have hlt := hshort _ hmem
    rw [hbase, hlength] at hlt
    exact Nat.lt_irrefl _ hlt
  · have hle := hfollowable.short
    rw [hbase, Utf8.encode_append, List.length_append, hbytes] at hle
    exact absurd hle (by decide)

/-- A link to another authority after its redirect, one to the path above, and one that is
redirected to a path too long to be requested. -/
theorem docs_link_dead_ends :
    IsDeadEnd "//x".toList ∧ IsDeadEnd "/..".toList ∧ IsDeadEnd (longPath 65533) := by
  refine ⟨?_, ?_, isDeadEnd_longPath⟩
  · have hlink : IsLinkPath "//x".toList := isLinkPath_of_all "/x".toList (by decide)
    refine isDeadEnd_of_not_isFollowable hlink (by decide) ?_
    exact fun manner h => h.noAuthority (.inr (by decide)) (by decide)
  · have hlink : IsLinkPath "/..".toList := isLinkPath_of_all "..".toList (by decide)
    refine isDeadEnd_of_not_isFollowable hlink (by decide) ?_
    exact fun manner h => h.noDots (by decide)

end Service

end OriginGate
