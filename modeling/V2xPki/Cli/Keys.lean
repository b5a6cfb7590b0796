import V2xPki.Cli.Writes
import V2xPki.Sample.Enrolment

namespace V2xPki

namespace Cli

open Framework PkiClient PlaintextFileKeyStore

section Paths

/-- A path is something that does not reach into the name, and the name. -/
theorem joinPath_lead (dir name : String) :
    ∃ lead : List Char,(joinPath dir name).toList=lead++name.toList ∧
      (lead=[] ∨ lead.getLast?=some '/') := by
  unfold joinPath
  split
  · rename_i h
    refine ⟨dir.toList,String.toList_append,?_⟩
    rcases h with rfl | h
    · exact .inl rfl
    · exact .inr h
  · refine ⟨dir.toList++['/'],?_,.inr (by simp)⟩
    rw [String.toList_append,String.toList_append]
    rfl

theorem takeWhile_lead {lead name : List Char} (hlead : lead=[] ∨ lead.getLast?=some '/')
    (hname : '/'∉name) : (lead++name).reverse.takeWhile (· ≠ '/')=name.reverse := by
  rw [List.reverse_append]
  have hall : ∀ c∈name.reverse,decide (c≠ '/')=true := by
    intro c hc
    have hne : c≠ '/' := by
      rintro rfl
      exact hname (List.mem_reverse.mp hc)
    simpa using hne
  rw [List.takeWhile_append_of_pos hall]
  have hstop : lead.reverse.takeWhile (· ≠ '/')=[] := by
    rcases hlead with rfl | hlast
    · rfl
    · rw [List.getLast?_eq_head?_reverse] at hlast
      obtain ⟨rest,hrest⟩ := List.head?_eq_some_iff.mp hlast
      rw [hrest]
      rfl
  rw [hstop,List.append_nil]

/-- The name is what stands after the last slash. -/
theorem joinPath_injective {dir dir' a b : String} (ha : '/'∉a.toList) (hb : '/'∉b.toList)
    (h : joinPath dir a=joinPath dir' b) : a=b := by
  obtain ⟨lead,hpath,hlead⟩ := joinPath_lead dir a
  obtain ⟨lead',hpath',hlead'⟩ := joinPath_lead dir' b
  have hnames : a.toList.reverse=b.toList.reverse := by
    rw [← takeWhile_lead hlead ha,← takeWhile_lead hlead' hb,← hpath,← hpath',h]
  exact String.toList_inj.mp (List.reverse_inj.mp hnames)

/-- The last letters of a path, the very last one first. -/
def ending (n : Nat) (path : String) : List Char := path.toList.reverse.take n

theorem ending_append {n : Nat} {y : String} (h : n ≤ y.toList.length) (x : String) :
    ending n (x++y)=ending n y := by
  unfold ending
  rw [String.toList_append,List.reverse_append]
  exact List.take_append_of_le_length (by simpa using h)

theorem ending_joinPath {n : Nat} {name : String} (h : n ≤ name.toList.length) (dir : String) :
    ending n (joinPath dir name)=ending n name := by
  unfold joinPath
  split
  · exact ending_append h dir
  · exact ending_append h (dir++"/")

theorem ending_take {n k : Nat} (h : k ≤ n) (path : String) :
    (ending n path).take k=ending k path := by
  rw [ending,ending,List.take_take,Nat.min_eq_left h]

/-- Whatever is written, but for the two certificates and an ECTL, has one of these endings. -/
def otherEndings : List (List Char) :=
  ["aa.cert","ea.cert","ca.cert","lm.cert","ma.cert","ical.id"].map fun name => name.toList.reverse

theorem writes_ending {a : Args} {path : String} (h : path∈writes a) :
    (a.command="fetch-ectl" ∧ path=a.out) ∨ (a.command="enrol" ∧ path=ecPath a) ∨
      (a.command="request-at" ∧ path=atPath a) ∨ ending 7 path∈otherEndings := by
  have happend : ∀ x y : String,7 ≤ y.toList.length → ending 7 y∈otherEndings →
      ending 7 (x++y)∈otherEndings := by
    intro x y hlen hy
    rwa [ending_append hlen]
  have hjoin : ∀ dir name : String,7 ≤ name.toList.length → ending 7 name∈otherEndings →
      ending 7 (joinPath dir name)∈otherEndings := by
    intro dir name hlen hname
    rwa [ending_joinPath hlen]
  unfold writes at h
  split at h
  · obtain ⟨item,hitem,rfl⟩ := List.mem_map.mp h
    simp only [fetchItems,List.mem_cons,List.not_mem_nil,or_false] at hitem
    rcases hitem with rfl | rfl | rfl
    · exact .inr (.inr (.inr (hjoin _ _ (by decide) (by decide))))
    · exact .inr (.inr (.inr (hjoin _ _ (by decide) (by decide))))
    · exact .inr (.inr (.inr (hjoin _ _ (by decide) (by decide))))
  split at h
  · rename_i hcommand
    exact .inl ⟨hcommand,List.mem_singleton.mp h⟩
  split at h
  · rename_i hcommand
    simp only [enrolFiles,List.mem_cons,List.not_mem_nil,or_false] at h
    rcases h with rfl | rfl | rfl | rfl
    · exact .inr (.inr (.inr (happend _ _ (by decide) (by decide))))
    · exact .inr (.inr (.inr (happend _ _ (by decide) (by decide))))
    · exact .inr (.inr (.inr (hjoin _ _ (by decide) (by decide))))
    · exact .inr (.inl ⟨hcommand,rfl⟩)
  split at h
  · rename_i hcommand
    simp only [requestAtFiles,List.mem_cons,List.not_mem_nil,or_false] at h
    rcases h with rfl | rfl | rfl | rfl
    · exact .inr (.inr (.inr (happend _ _ (by decide) (by decide))))
    · exact .inr (.inr (.inr (happend _ _ (by decide) (by decide))))
    · exact .inr (.inr (.inr (happend _ _ (by decide) (by decide))))
    · exact .inr (.inr (.inl ⟨hcommand,rfl⟩))
  · cases h

theorem ending_keyFile (dir : String) (handle : KeyHandle) :
    ending 4 (joinPath dir (pemName handle))=['m','e','p','.'] := by
  have hname : ending 4 (pemName handle)=['m','e','p','.'] := ending_append (by decide) handle.id
  rwa [ending_joinPath]
  rw [pemName,String.toList_append,List.length_append]
  exact Nat.le_add_left _ _

/-- So a key file is none of these, unless an ECTL is saved in its place. -/
theorem keyFile_not_written (dir : String) (handle : KeyHandle) {a : Args}
    (hout : a.command="fetch-ectl" → a.out≠joinPath dir (pemName handle)) :
    joinPath dir (pemName handle)∉writes a := by
  intro h
  have hkey := ending_keyFile dir handle
  rcases writes_ending h with ⟨hcommand,hpath⟩ | ⟨-,hpath⟩ | ⟨-,hpath⟩ | hother
  · exact hout hcommand hpath.symm
  · rw [hpath,ecPath,ending_append (by decide)] at hkey
    exact absurd hkey (by decide)
  · rw [hpath,atPath,ending_append (by decide)] at hkey
    exact absurd hkey (by decide)
  · rw [← @ending_take 7 4 (by decide)] at hkey
    have hnone : ∀ e∈otherEndings,e.take 4≠['m','e','p','.'] := by decide
    exact hnone _ hother hkey

end Paths

/-- An invocation that does not take away the key under a handle: it does not ask for a ticket for
the handle from which this one is derived, and does not save an ECTL in the place of the key. Places
are compared by the text of their paths, as everywhere: in a session no file goes by two. -/
def LeavesKey (dir : String) (handle : KeyHandle) (a : Args) : Prop :=
  (a.command="request-at" → keyId a++"-at"≠handle.id) ∧
    (a.command="fetch-ectl" → a.out≠joinPath dir (pemName handle))

instance (dir : String) (handle : KeyHandle) (a : Args) : Decidable (LeavesKey dir handle a) :=
  inferInstanceAs (Decidable (_ ∧ _))

theorem ofString_some {id : String} {handle : KeyHandle} (h : KeyHandle.ofString id=some handle) :
    handle.id=id := by
  unfold KeyHandle.ofString at h
  split at h
  · split at h
    · split at h
      · cases h
        rfl
      · cases h
    · cases h
  · cases h

section
variable {lib : Lib} {pem : KeyPem} {version : Bytes}

theorem key_spared {dir : String} {handle : KeyHandle} {a : Args} (h : LeavesKey dir handle a) :
    Spares pem (fun c => (savedKey pem c).isSome=true) a (joinPath dir (pemName handle)) := by
  obtain ⟨hticket,hout⟩ := h
  refine ⟨keyFile_not_written dir handle hout,?_,?_⟩
  · intro _ _ _ _ c hc
    exact hc
  · intro hcommand atHandle hat hpath
    have hname := joinPath_injective (pemName_no_slash atHandle) (pemName_no_slash handle) hpath
    apply hticket hcommand
    rw [← ofString_some hat,pemName_injective hname]

/-- Whatever the servers answer and however the writes go, in every run of invocations a key that
can be loaded stays as it is, unless one of them asks for a ticket for the handle from which its
own is derived, or saves an ECTL in its place. -/
theorem keys_survive (is : List Invocation) (s : Session) {dir : String} {handle : KeyHandle}
    {kp : KeyPair} (hkey : loadKeypair pem (inDirectory s.files dir) handle=some kp)
    (h : ∀ i∈is,LeavesKey dir handle i.args) :
    loadKeypair pem (inDirectory (invokeAll lib pem version is s).files dir) handle=some kp ∧
    (invokeAll lib pem version is s).files (joinPath dir (pemName handle))=
      s.files (joinPath dir (pemName handle)) := by
  rw [loadKeypair_inDirectory] at hkey
  have hstart : (savedKey pem (s.files (joinPath dir (pemName handle)))).isSome=true := by
    rw [hkey]
    rfl
  have hfile := @invokeAll_spares lib pem version _ _ is s hstart fun i hi => key_spared (h i hi)
  refine ⟨?_,hfile⟩
  rw [loadKeypair_inDirectory,hfile,hkey]

end

end Cli

namespace Sample

open Framework PkiClient PlaintextFileKeyStore Cli

/-- No server answers and every file is written in full. -/
def alone : Outside where
  answer _ _ := ⟨.error .network,0,fun _ => .zero⟩
  unixNow _ := 0
  ecEntropy _ := station.ecEntropy
  atEntropy _ := station.atEntropy
  scalar _ := some 23
  mem _ _ := .zero
  listed _ := []
  directory _ := true
  fill _ := .filled 4096 true

/-- A key store that holds one key. -/
def keptKey : Session where
  files name := if name="/ks/canonical.pem" then some (keyPem.write ⟨.nistP256,21,pointOn .nistP256 21⟩)
    else none
  events := []
  printed := []

def stationRuns : List Invocation :=
  [⟨alone,["v2xpki","enrol","--pki-url","https://pki","--keystore-dir","/ks"]⟩,
    ⟨alone,["v2xpki","request-at","--keystore-dir","/ks/","--pki-url","https://pki"]⟩,
    ⟨alone,["v2xpki","fetch-ectl","--pki-url","https://pki","--out","/ks/ectl.coer"]⟩]

theorem station_key_survives :
    loadKeypair keyPem (inDirectory (invokeAll (enrolLib {}) keyPem [] stationRuns keptKey).files "/ks")
        canonical=some (keyPair 21) ∧
      (invokeAll (enrolLib {}) keyPem [] stationRuns keptKey).files "/ks/canonical.pem"=
        keptKey.files "/ks/canonical.pem" :=
  @keys_survive (enrolLib {}) keyPem [] stationRuns keptKey "/ks" canonical (keyPair 21)
    (by decide +kernel) (by decide +kernel)

end Sample

end V2xPki
