import V2xPki.Client.ListFlags
import V2xPki.Sample.Provisioning

namespace V2xPki

namespace PkiClient

open Framework

/-- The EAs that the answer to a CTL request contributes. -/
def CtlAnswer.eas : CtlAnswer → List EaInfo
  | .missing => []
  | .refused => []
  | .accepted ctl => ctl.eas

def CtlAnswer.aas : CtlAnswer → List AaInfo
  | .missing => []
  | .refused => []
  | .accepted ctl => ctl.aas

section
variable (lib : Lib) (w : World)

/-- The EAs that the ECTL and then, root CA by root CA, the accepted CTLs list. -/
def listedEas (s : ClientState) (tlm : CertInfo) (ectl : TrustTopology) : List EaInfo :=
  ectl.eas++(ctlReplies lib w s tlm ectl).flatMap fun p => (ctlAnswer lib p.1 p.2).eas

def listedAas (s : ClientState) (tlm : CertInfo) (ectl : TrustTopology) : List AaInfo :=
  ectl.aas++(ctlReplies lib w s tlm ectl).flatMap fun p => (ctlAnswer lib p.1 p.2).aas

/-- One round adds the CAs of its answer at the end. -/
theorem visit_cas (baseUrl : String) (v : Visit) (rca : CertInfo) :
    (visit lib w baseUrl v rca).result.eas=
      v.result.eas++(roundAnswer lib w baseUrl v rca).eas ∧
    (visit lib w baseUrl v rca).result.aas=
      v.result.aas++(roundAnswer lib w baseUrl v rca).aas ∧
    (visit lib w baseUrl v rca).result.ectlSignatureVerified=
      v.result.ectlSignatureVerified := by
  unfold visit
  cases roundAnswer lib w baseUrl v rca with
  | missing => exact ⟨(List.append_nil _).symm,(List.append_nil _).symm,rfl⟩
  | refused => exact ⟨(List.append_nil _).symm,(List.append_nil _).symm,rfl⟩
  | accepted ctl => exact ⟨rfl,rfl,rfl⟩

theorem visitAll_cas (baseUrl : String) (rcas : List CertInfo) (v : Visit) :
    (visitAll lib w baseUrl rcas v).result.eas=v.result.eas++
      (replies lib w baseUrl rcas v).flatMap (fun p => (ctlAnswer lib p.1 p.2).eas) ∧
    (visitAll lib w baseUrl rcas v).result.aas=v.result.aas++
      (replies lib w baseUrl rcas v).flatMap (fun p => (ctlAnswer lib p.1 p.2).aas) ∧
    (visitAll lib w baseUrl rcas v).result.ectlSignatureVerified=
      v.result.ectlSignatureVerified := by
  induction rcas generalizing v with
  | nil => exact ⟨(List.append_nil _).symm,(List.append_nil _).symm,rfl⟩
  | cons rca rcas ih =>
    obtain ⟨heas,haas,hflag⟩ := ih (visit lib w baseUrl v rca)
    obtain ⟨hea,haa,hkept⟩ := visit_cas lib w baseUrl v rca
    refine ⟨?_,?_,hflag.trans hkept⟩
    · rw [hea,List.append_assoc] at heas
      exact heas
    · rw [haa,List.append_assoc] at haas
      exact haas

/-- An accepted ECTL was verified, and no round takes that back. -/
theorem rounds_cas {s : ClientState} {tlm : CertInfo} {ectl : TrustTopology}
    (he : ectlAnswered lib w s tlm=.ok ectl) :
    (rounds lib w s tlm ectl).result.eas=listedEas lib w s tlm ectl ∧
    (rounds lib w s tlm ectl).result.aas=listedAas lib w s tlm ectl ∧
    (rounds lib w s tlm ectl).result.ectlSignatureVerified=true := by
  obtain ⟨heas,haas,hflag⟩ := visitAll_cas lib w s.config.tlmUrl ectl.rcas (loopStart s tlm ectl)
  have hverified : ectl.ectlSignatureVerified=true := by
    obtain ⟨body,ctl,-,-,rfl⟩ := ectlAnswer_list he
    rfl
  exact ⟨heas,haas,hflag.trans hverified⟩

theorem rounds_rcas (s : ClientState) (tlm : CertInfo) (ectl : TrustTopology) :
    (rounds lib w s tlm ectl).result.rcas=ectl.rcas :=
  congrArg (·.2.1) (rounds_settled lib w s tlm ectl)

end

/-- A URL without its trailing slashes. -/
def baseOf (url : String) : String :=
  String.ofList (url.toList.rdropWhile (· == '/'))

/-- Where an identifier is to be looked for: at the first centre that serves it and has a usable
URL, or else at the fallback. -/
def wantedBase (dcs : List DcInfo) (hid8 : HashedId8) (fallbackUrl : String) : String :=
  match dcs.find? (fun dc => dc.serves.contains hid8 && decide (baseOf dc.url≠"")) with
  | none => baseOf fallbackUrl
  | some dc => baseOf dc.url

/-- A base URL to which a path can be appended, of the right place. -/
structure FallsBack (dcs : List DcInfo) (hid8 : HashedId8) (fallbackUrl url : String) : Prop where
  nonempty : url≠""
  bare : url.toList.getLast? ≠ some '/'
  wanted : url=wantedBase dcs hid8 fallbackUrl

/-- What `find_dc_url` takes for granted: the first centre that serves the identifier has a URL
with at most one trailing slash after something else, and a fallback that is used has none. -/
def Plain (dcs : List DcInfo) (hid8 : HashedId8) (fallbackUrl : String) : Prop :=
  match dcs.find? (fun dc => dc.serves.contains hid8) with
  | none => fallbackUrl.toList.getLast? ≠ some '/'
  | some dc => dc.url≠"" ∧ dc.url≠"/" ∧ ¬['/','/']<:+dc.url.toList

/-- `url.pop_back()` after the test for a slash. -/
def dropSlash (cs : List Char) : List Char :=
  if cs.getLast? = some '/' then cs.dropLast else cs

section
variable {cs : List Char}

theorem rdropWhile_bare (h : cs.getLast? ≠ some '/') : cs.rdropWhile (· == '/')=cs := by
  rcases List.eq_nil_or_concat cs with rfl | ⟨front,c,rfl⟩
  · rfl
  · rw [List.concat_eq_append] at h ⊢
    rw [List.rdropWhile_concat_neg]
    simpa using h

theorem dropSlash_concat (front : List Char) (c : Char) :
    dropSlash (front++[c])=if c = '/' then front else front++[c] := by
  simp [dropSlash]

theorem twoSlashes_concat (front : List Char) (c : Char) :
    ['/','/']<:+front++[c] ↔ c = '/' ∧ front.getLast? = some '/' := by
  constructor
  · rintro ⟨rest,hrest⟩
    have hsplit : rest++['/']++['/']=front++[c] := by simpa using hrest
    obtain ⟨hfront,hc⟩ := List.append_inj' hsplit rfl
    refine ⟨(List.singleton_inj.mp hc).symm,?_⟩
    rw [← hfront,List.getLast?_concat]
  · rintro ⟨rfl,hlast⟩
    obtain ⟨rest,rfl⟩ := List.getLast?_eq_some_iff.mp hlast
    exact ⟨rest,by simp⟩

/-- One slash is dropped, so the rest is bare exactly if there was at most one, after something
else. -/
theorem dropSlash_bare_iff (cs : List Char) :
    dropSlash cs≠[] ∧ (dropSlash cs).getLast? ≠ some '/' ↔
      cs≠[] ∧ cs ≠ ['/'] ∧ ¬['/','/']<:+cs := by
  rcases List.eq_nil_or_concat cs with rfl | ⟨front,c,rfl⟩
  · simp [dropSlash]
  rw [List.concat_eq_append,dropSlash_concat,twoSlashes_concat]
  by_cases hc : c = '/'
  · subst hc
    simp
  · have hne : front++[c] ≠ ['/'] := by
      intro heq
      obtain ⟨-,hlast⟩ := List.append_inj' (heq.trans (List.nil_append _).symm) rfl
      exact hc (List.singleton_inj.mp hlast)
    simp [hc,hne]

/-- What one slash is dropped from has no more of them. -/
theorem dropSlash_eq_base (h : (dropSlash cs).getLast? ≠ some '/') :
    dropSlash cs=cs.rdropWhile (· == '/') := by
  rcases List.eq_nil_or_concat cs with rfl | ⟨front,c,rfl⟩
  · rfl
  rw [List.concat_eq_append] at h ⊢
  rw [dropSlash_concat] at h ⊢
  by_cases hc : c = '/'
  · subst hc
    rw [if_pos rfl] at h ⊢
    rw [List.rdropWhile_concat_pos _ _ _ (by simp),rdropWhile_bare h]
  · rw [if_neg hc] at h ⊢
    exact (rdropWhile_bare h).symm

end

section
variable {dcs : List DcInfo} {hid8 : HashedId8} {fallbackUrl : String} {dc : DcInfo}

theorem findDcUrl_none (h : dcs.find? (fun dc => dc.serves.contains hid8)=none) :
    findDcUrl dcs hid8 fallbackUrl=fallbackUrl := by
  rw [findDcUrl,h]

theorem findDcUrl_some (h : dcs.find? (fun dc => dc.serves.contains hid8)=some dc) :
    findDcUrl dcs hid8 fallbackUrl=String.ofList (dropSlash dc.url.toList) := by
  rw [findDcUrl,h]
  dsimp only
  unfold dropSlash
  split
  · rfl
  · rw [String.ofList_toList]

/-- A centre that serves the identifier first and can be used is where it is wanted. -/
theorem wantedBase_some (h : dcs.find? (fun dc => dc.serves.contains hid8)=some dc)
    (hbase : baseOf dc.url≠"") : wantedBase dcs hid8 fallbackUrl=baseOf dc.url := by
  have hfind : dcs.find? (fun dc => dc.serves.contains hid8 && decide (baseOf dc.url≠""))=
      some dc := by
    obtain ⟨hserves,front,rest,rfl,hbefore⟩ := List.find?_eq_some_iff_append.mp h
    apply List.find?_eq_some_iff_append.mpr
    refine ⟨by simp_all,front,rest,rfl,?_⟩
    intro other hother
    have hno := hbefore other hother
    simp_all
  rw [wantedBase,hfind]

theorem wantedBase_none (h : dcs.find? (fun dc => dc.serves.contains hid8)=none) :
    wantedBase dcs hid8 fallbackUrl=baseOf fallbackUrl := by
  have hfind : dcs.find? (fun dc => dc.serves.contains hid8 && decide (baseOf dc.url≠""))=
      none := by
    rw [List.find?_eq_none] at h ⊢
    intro dc hdc
    simp_all
  rw [wantedBase,hfind]

theorem ofList_ne_empty {cs : List Char} : String.ofList cs≠"" ↔ cs≠[] := by
  rw [ne_eq,ne_eq,← String.toList_inj,String.toList_ofList]
  rfl

/-- `find_dc_url` returns what it should exactly if it is asked about plain URLs. -/
theorem fallsBack_iff (hfallback : fallbackUrl≠"") :
    FallsBack dcs hid8 fallbackUrl (findDcUrl dcs hid8 fallbackUrl) ↔
      Plain dcs hid8 fallbackUrl := by
  unfold Plain
  cases h : dcs.find? (fun dc => dc.serves.contains hid8) with
  | none =>
    dsimp only
    rw [findDcUrl_none h]
    constructor
    · intro hfalls
      exact hfalls.bare
    · intro hbare
      refine ⟨hfallback,hbare,?_⟩
      rw [wantedBase_none h,baseOf,rdropWhile_bare hbare,String.ofList_toList]
  | some dc =>
    dsimp only
    have hplain : dc.url≠"" ∧ dc.url≠"/" ∧ ¬['/','/']<:+dc.url.toList ↔
        dropSlash dc.url.toList≠[] ∧ (dropSlash dc.url.toList).getLast? ≠ some '/' := by
      rw [dropSlash_bare_iff,← String.toList_inj.ne,← String.toList_inj.ne]
      rfl
    rw [hplain,findDcUrl_some h]
    constructor
    · intro hfalls
      refine ⟨ofList_ne_empty.mp hfalls.nonempty,?_⟩
      have hbare := hfalls.bare
      rw [String.toList_ofList] at hbare
      exact hbare
    · rintro ⟨hne,hbare⟩
      have hbase : baseOf dc.url=String.ofList (dropSlash dc.url.toList) := by
        rw [baseOf,dropSlash_eq_base hbare]
      refine ⟨ofList_ne_empty.mpr hne,by rw [String.toList_ofList]; exact hbare,?_⟩
      rw [wantedBase_some h,hbase]
      rw [hbase]
      exact ofList_ne_empty.mpr hne

end

/-- A successful call leaves no endpoint empty that was not. -/
def KeepsEndpoints (lib : Lib) (w : World) (s : ClientState) : Prop :=
  ∀ t s',Op.exec (discoverTrust lib w) s=(.ok t,s') →
    (s.config.eaUrl≠"" → s'.config.eaUrl≠"") ∧ (s.config.aaUrl≠"" → s'.config.aaUrl≠"")

/-- The condition on the server: unless the call fails anyway, or there is nothing to lose, the
first AA that is listed has an access point. -/
def FirstAaReachable (lib : Lib) (w : World) (s : ClientState) : Prop :=
  ∀ tlm ectl aa,tlmAnswered lib w s=.ok tlm → ectlAnswered lib w s tlm=.ok ectl →
    CtlsHold lib w s tlm ectl → (listedAas lib w s tlm ectl).head?=some aa →
    s.config.aaUrl≠"" → aa.accessPoint≠""

section
variable (result : TrustTopology) (s : ClientState)

theorem adopt_eaUrl (h : s.config.eaUrl≠"") : (adopt result s).config.eaUrl≠"" := by
  unfold adopt
  dsimp only
  split
  · exact h
  · rename_i ea eas heas
    by_cases hea : ea.itsAccessPoint.isEmpty=true
    · rw [if_pos hea]
      exact h
    · rw [if_neg hea]
      simpa using hea

theorem adopt_aaUrl :
    (adopt result s).config.aaUrl=((result.aas.head?.map (·.accessPoint)).getD s.config.aaUrl) := by
  unfold adopt
  cases result.aas <;> rfl

end

/-- The branch of the EA tests the access point and the branch of the AA does not, so only the
latter depends on what the first entry says. -/
theorem keepsEndpoints_iff (lib : Lib) (w : World) (s : ClientState) :
    KeepsEndpoints lib w s ↔ FirstAaReachable lib w s := by
  constructor
  · intro h tlm ectl aa ht he hold haa hset
    have hrun := (discoverTrust_ok lib w).mpr ⟨tlm,ectl,ht,he,hold,rfl,rfl⟩
    have hkept := (h _ _ hrun).2 hset
    rw [adopt_aaUrl,(rounds_cas lib w he).2.1,haa] at hkept
    exact hkept
  · intro h t s' hrun
    obtain ⟨tlm,ectl,ht,he,hold,rfl,rfl⟩ := (discoverTrust_ok lib w).mp hrun
    refine ⟨adopt_eaUrl _ _,?_⟩
    intro hset
    rw [adopt_aaUrl,(rounds_cas lib w he).2.1]
    cases haa : (listedAas lib w s tlm ectl).head? with
    | none => exact hset
    | some aa => exact h tlm ectl aa ht he hold haa hset

/-- The endpoints of the CAs survive a discovery, and the URL of a centre falls back, exactly
if the lists hold no entry that the unguarded branches trip over. -/
theorem endpoints_fall_back_iff (lib : Lib) (w : World) (s : ClientState) :
    (KeepsEndpoints lib w s ↔ FirstAaReachable lib w s) ∧
    ∀ dcs hid8 fallbackUrl,fallbackUrl≠"" →
      (FallsBack dcs hid8 fallbackUrl (findDcUrl dcs hid8 fallbackUrl) ↔
        Plain dcs hid8 fallbackUrl) :=
  ⟨keepsEndpoints_iff lib w s,fun _ _ _ hfallback => fallsBack_iff hfallback⟩

end PkiClient

namespace Sample

open Framework PkiClient

/-- A CTL whose AA has no access point. -/
def unreachableList : Coded Asn.EtsiTs102941Data :=
  rcaCtl 0 [eaEntry eaCa "",aaEntry aaCa ""]

def unreachableCtl : Coded Asn.Ieee1609Dot2Data := signedEnvelope 5 rootCa unreachableList.1

def unreachableLib : Lib := lib
  {certs := fleetCas,bodies := fleetBodies,envelopes := [rogueEctl,unreachableCtl]
   signedBodies := [signedBody rogueList.1,signedBody unreachableList.1]
   payloads := [rogueList,unreachableList]}

def configured : ClientState := .initial unreachableLib (fun _ => .zero)
  {pinnedConfig with eaUrl := "https://ea",aaUrl := "https://aa"} []

def unreachableServer : World :=
  scripted stillSetting 0 [served rogueTlm.1,served rogueEctl.1,served unreachableCtl.1]

/-- A centre with one trailing slash is what `find_dc_url` is made for. -/
theorem listed_centre_found :
    "https://tlm"≠"" ∧ FallsBack [⟨"https://dc/",[.zero]⟩] .zero "https://tlm" "https://dc" := by
  refine ⟨by decide,?_⟩
  refine ((endpoints_fall_back_iff unreachableLib unreachableServer configured).2
    [⟨"https://dc/",[.zero]⟩] .zero "https://tlm" (by decide)).mpr ?_
  exact ⟨by decide,by decide,by decide⟩

/-- The same CTL keeps the configured URL of the EA and loses that of the AA; and a centre
without a URL is preferred to the fallback. -/
theorem empty_access_point_adopted :
    ¬KeepsEndpoints unreachableLib unreachableServer configured ∧
    ¬FallsBack [⟨"/",[.zero]⟩] .zero "https://tlm"
      (findDcUrl [⟨"/",[.zero]⟩] .zero "https://tlm") := by
  constructor
  · intro h
    have hrun : (Op.exec (discoverTrust unreachableLib unreachableServer)
        configured).1.toOption.map (·.aas.map (·.accessPoint))=some [""] := by decide +kernel
    have hurl : (Op.exec (discoverTrust unreachableLib unreachableServer)
        configured).2.config.aaUrl="" := by decide +kernel
    obtain ⟨t,hexec,-⟩ := Op.exec_of_eval hrun
    exact (h t _ hexec).2 (by decide) hurl
  · intro h
    exact h.nonempty (by decide)

end Sample

end V2xPki
