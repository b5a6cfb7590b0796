import V2xPki.Provisioner.WireDump

namespace V2xPki.Provisioning

open Framework Framework.Json

/-- A write that is reported to have gone well has put all of `n` octets into the file. -/
def NothingLost (n : Nat) : Fill → Prop
  | .notOpened => True
  | .filled kept reported => reported=true → n≤kept

/-- An entry says of its octets what there is to say. -/
structure Built (ssl : OpenSsl) (e : Entry) (b : Bytes) : Prop where
  file : e.file=e.step++bytesOfString ".coer"
  size : e.size=b.length
  sha256 : e.sha256=hexText (Crypto.hashSha256 ssl b)

/-- Two entries say the same of their octets. -/
def Agree (e f : Entry) : Prop := e.size=f.size ∧ e.sha256=f.sha256

/-- Of the artefacts, each is written without an unnoticed loss, or a later one replaces it. -/
inductive WholeWrites (fill : Nat → Fill) : Nat → List (Entry × Bytes) → Prop
  | nil {i : Nat} : WholeWrites fill i []
  | cons {i : Nat} {e : Entry} {b : Bytes} {rest : List (Entry × Bytes)} :
      NothingLost b.length (fill i) ∨ (∃ p∈rest,p.1.file=e.file) →
      WholeWrites fill (i+1) rest → WholeWrites fill i ((e,b)::rest)

namespace WireDump

def keys (d : WireDump) : List Bytes := d.metas.map (·.1)

/-- The names at the top level of the manifest. -/
def topLevel (d : WireDump) : List Bytes := d.keys++[bytesOfString "artefacts"]

/-- The names of the metadata that a `flush` appends. -/
def flushKeys (d : WireDump) : List Bytes :=
  bytesOfString "dumped_at_utc"::if d.withKeys then [bytesOfString "warning"] else []

/-- The manifest is in its file and describes the files: each artefact it lists is in the file
it names, with its size and hash, and no name is repeated at the top level. -/
structure Described (ssl : OpenSsl) (dir : String) (d : WireDump) (files : Files UInt8) : Prop where
  manifest : files (manifestPath dir)=some d.manifest
  artefacts : ∀ e∈d.entries,∃ b,files (pathOf dir e)=some b ∧ e.size=b.length ∧
    e.sha256=hexText (Crypto.hashSha256 ssl b)
  distinct : d.topLevel.Nodup

end WireDump

/-- What it comes to when the dump is flushed. -/
structure Ready (d : WireDump) (f : FlushSetting) : Prop where
  agree : ∀ e∈d.entries,∀ g∈d.entries,e.step=g.step → Agree e g
  distinct : (d.stamped f.time).topLevel.Nodup
  blobs : WholeWrites f.blob 0 (d.entries.zip d.blobs)
  manifest : NothingLost (d.stamped f.time).manifest.length f.manifest

section Paths

theorem bytesOfString_stringOfBytes (b : Bytes) : bytesOfString (stringOfBytes b)=b := by
  have hchar : ∀ n<256,UInt8.ofNat (Char.ofNat n).toNat=UInt8.ofNat n := by decide +kernel
  rw [bytesOfString,stringOfBytes,String.toList_ofList,List.map_map]
  have hid : ((fun c : Char => UInt8.ofNat c.toNat) ∘ fun c : UInt8 => Char.ofNat c.toNat)=id := by
    funext c
    exact (hchar c.toNat c.toNat_lt).trans UInt8.ofNat_toNat
  rw [hid,List.map_id]

theorem pathOf_injective {dir : String} {e f : Entry}
    (h : WireDump.pathOf dir e=WireDump.pathOf dir f) : e.file=f.file := by
  have hname : stringOfBytes e.file=stringOfBytes f.file := by
    have hlist := congrArg String.toList h
    simp only [WireDump.pathOf,String.toList_append] at hlist
    exact String.toList_inj.mp (List.append_cancel_left hlist)
  rw [← bytesOfString_stringOfBytes e.file,hname,bytesOfString_stringOfBytes]

/-- The last letters of the names tell an artefact from the manifest. -/
theorem pathOf_ne_manifestPath {dir : String} {e : Entry} {step : Bytes}
    (h : e.file=step++bytesOfString ".coer") :
    WireDump.pathOf dir e≠WireDump.manifestPath dir := by
  intro heq
  have hname : stringOfBytes e.file="manifest.json" := by
    have hlist := congrArg String.toList heq
    have hslash : "/manifest.json"="/"++"manifest.json" := rfl
    simp only [WireDump.pathOf,WireDump.manifestPath,hslash,String.toList_append,
      List.append_assoc] at hlist
    exact String.toList_inj.mp (List.append_cancel_left (List.append_cancel_left hlist))
  have hbytes := bytesOfString_stringOfBytes e.file
  rw [hname,h] at hbytes
  have hlast := congrArg List.getLast? hbytes
  have hcoer : (bytesOfString ".coer").getLast?=some 0x72 := by decide
  have hjson : (bytesOfString "manifest.json").getLast?=some 0x6e := by decide
  rw [List.getLast?_append,hcoer,hjson] at hlast
  cases hlast

end Paths

section Writes
variable {dir path : String} {fill : Nat → Fill} {i : Nat} {files : Files UInt8}
  {l : List (Entry × Bytes)}

/-- A write that is reported to have gone well left the first octets. -/
theorem overwrite_reported {data : Bytes} {f : Fill} (h : (files.overwrite path data f).1=true) :
    ∃ kept,(NothingLost data.length f ↔ data.length≤kept) ∧
      (files.overwrite path data f).2=Function.update files path (some (data.take kept)) := by
  cases f with
  | notOpened => cases h
  | filled kept reported =>
    obtain rfl : reported=true := h
    exact ⟨kept,by simp [NothingLost],rfl⟩

/-- The first of the artefacts is written, and then the others. -/
theorem writeBlobs_cons {e : Entry} {b : Bytes} {rest : List (Entry × Bytes)}
    (h : (WireDump.writeBlobs dir fill i ((e,b)::rest) files).1=true) :
    ∃ kept,(NothingLost b.length (fill i) ↔ b.length≤kept) ∧
      WireDump.writeBlobs dir fill i ((e,b)::rest) files=
        WireDump.writeBlobs dir fill (i+1) rest
          (Function.update files (WireDump.pathOf dir e) (some (b.take kept))) := by
  rw [WireDump.writeBlobs] at h ⊢
  split at h
  · rename_i hfailed
    rw [hfailed] at h
    cases h
  · rename_i hworked
    obtain ⟨kept,hkept,hfile⟩ := overwrite_reported (eq_true_of_ne_false hworked)
    rw [if_neg hworked,hfile]
    exact ⟨kept,hkept,rfl⟩

/-- The files that no artefact names stay as they were. -/
theorem writeBlobs_other (hother : ∀ p∈l,WireDump.pathOf dir p.1≠path) :
    (WireDump.writeBlobs dir fill i l files).2 path=files path := by
  induction l generalizing i files with
  | nil => rfl
  | cons p rest ih =>
    obtain ⟨e,b⟩ := p
    obtain ⟨hne,hrest⟩ := List.forall_mem_cons.mp hother
    have hfirst := @Files.overwrite_other _ files _ _ b (Ne.symm hne) (fill i)
    unfold WireDump.writeBlobs
    dsimp only
    split
    · exact hfirst
    · exact (ih hrest).trans hfirst

/-- An artefact that no later one replaces. -/
theorem writeBlobs_last {e : Entry} {kept : Nat} {b : Bytes} {rest : List (Entry × Bytes)}
    (hlast : ¬∃ p∈rest,p.1.file=e.file) :
    (WireDump.writeBlobs dir fill (i+1) rest (Function.update files (WireDump.pathOf dir e)
      (some (b.take kept)))).2 (WireDump.pathOf dir e)=some (b.take kept) := by
  rw [writeBlobs_other,Function.update_self]
  intro p hp hpath
  exact hlast ⟨p,hp,pathOf_injective hpath⟩

/-- After a success without losses every artefact's file holds the octets of an artefact of
that name: the last one. -/
theorem writeBlobs_written (h : (WireDump.writeBlobs dir fill i l files).1=true)
    (hwhole : WholeWrites fill i l) :
    ∀ p∈l,∃ q∈l,q.1.file=p.1.file ∧
      (WireDump.writeBlobs dir fill i l files).2 (WireDump.pathOf dir p.1)=some q.2 := by
  induction l generalizing i files with
  | nil =>
    intro p hp
    cases hp
  | cons first rest ih =>
    obtain ⟨e,b⟩ := first
    obtain _ | ⟨hfirst,hrest⟩ := hwhole
    obtain ⟨kept,hkept,heq⟩ := writeBlobs_cons h
    rw [heq] at h ⊢
    have hall := ih h hrest
    intro p hp
    by_cases hlater : ∃ q∈rest,q.1.file=p.1.file
    · obtain ⟨q,hq,hfile⟩ := hlater
      obtain ⟨r,hr,hname,hdata⟩ := hall q hq
      have hpath : WireDump.pathOf dir q.1=WireDump.pathOf dir p.1 := by
        unfold WireDump.pathOf
        rw [hfile]
      rw [hpath] at hdata
      exact ⟨r,List.mem_cons_of_mem _ hr,hname.trans hfile,hdata⟩
    · have hp : p=(e,b) := by
        rcases List.mem_cons.mp hp with hp | hmem
        · exact hp
        · exact absurd ⟨p,hmem,rfl⟩ hlater
      subst hp
      have hle := hkept.mp (hfirst.resolve_right hlater)
      refine ⟨(e,b),List.mem_cons_self,rfl,?_⟩
      rw [writeBlobs_last hlater,List.take_of_length_le hle]

/-- When the files have the lengths of the artefacts, nothing was lost. -/
theorem writeBlobs_whole (h : (WireDump.writeBlobs dir fill i l files).1=true)
    (hlen : ∀ p∈l,∃ b,(WireDump.writeBlobs dir fill i l files).2 (WireDump.pathOf dir p.1)=some b ∧
      b.length=p.2.length) : WholeWrites fill i l := by
  induction l generalizing i files with
  | nil => exact .nil
  | cons first rest ih =>
    obtain ⟨e,b⟩ := first
    obtain ⟨kept,hkept,heq⟩ := writeBlobs_cons h
    rw [heq] at h hlen
    obtain ⟨⟨c,hc,hclen⟩,hrest⟩ := List.forall_mem_cons.mp hlen
    refine .cons ?_ (ih h hrest)
    by_cases hlater : ∃ p∈rest,p.1.file=e.file
    · exact .inr hlater
    · left
      rw [writeBlobs_last hlater] at hc
      obtain rfl := Option.some.inj hc
      rw [List.length_take] at hclen
      dsimp only at hclen
      exact hkept.mpr (by omega)

end Writes

section Flush
variable {ssl : OpenSsl} {d : WireDump} {files : Files UInt8} {f : FlushSetting}

/-- What a `flush` leaves of the dump. -/
theorem flush_dump (d : WireDump) (files : Files UInt8) (f : FlushSetting) :
    d.enabled=false ∧ (d.flush files f).2.1=d ∨ d.enabled=true ∧
      ((d.flush files f).1=false ∧ (d.flush files f).2.1=d.stamped f.time ∨
        (d.flush files f).1=true ∧ (d.flush files f).2.1={d.stamped f.time with dir := ""}) := by
  unfold WireDump.flush
  cases henabled : d.enabled with
  | false => exact .inl ⟨rfl,rfl⟩
  | true =>
    right
    dsimp only
    rw [if_neg (by simp)]
    split
    · exact ⟨rfl,.inl ⟨rfl,rfl⟩⟩
    split
    · exact ⟨rfl,.inl ⟨rfl,rfl⟩⟩
    · exact ⟨rfl,.inr ⟨rfl,rfl⟩⟩

/-- A `flush` that works has written the artefacts and then the manifest. -/
theorem flush_worked (henabled : d.enabled=true) (h : (d.flush files f).1=true) :
    (WireDump.writeBlobs d.dir f.blob 0 (d.entries.zip d.blobs) files).1=true ∧
    ∃ m,m=(WireDump.writeBlobs d.dir f.blob 0 (d.entries.zip d.blobs) files).2.overwrite
        (WireDump.manifestPath d.dir) (d.stamped f.time).manifest f.manifest ∧
      m.1=true ∧ (d.flush files f).2.2=m.2 := by
  unfold WireDump.flush at h ⊢
  rw [if_neg (by simp [henabled])] at h ⊢
  dsimp only at h ⊢
  split at h
  · cases h
  split at h
  · cases h
  · rename_i hblobs hmanifest
    rw [if_neg hblobs,if_neg hmanifest]
    exact ⟨eq_true_of_ne_false hblobs,_,rfl,eq_true_of_ne_false hmanifest,rfl⟩

/-- The octets an entry was built of. -/
theorem built_octets (hbuilt : List.Forall₂ (Built ssl) d.entries d.blobs) {e : Entry}
    (he : e∈d.entries) : ∃ b,(e,b)∈d.entries.zip d.blobs ∧ Built ssl e b := by
  obtain ⟨hlen,hzip⟩ := List.forall₂_iff_zip.mp hbuilt
  have hfst : (d.entries.zip d.blobs).map Prod.fst=d.entries := List.map_fst_zip hlen.le
  rw [← hfst] at he
  obtain ⟨⟨e',b⟩,hmem,rfl⟩ := List.mem_map.mp he
  exact ⟨b,hmem,hzip hmem⟩

/-- After the artefacts are written, the file of each holds what its entry says. -/
theorem writeBlobs_described (hbuilt : List.Forall₂ (Built ssl) d.entries d.blobs)
    (hready : Ready d f)
    (h : (WireDump.writeBlobs d.dir f.blob 0 (d.entries.zip d.blobs) files).1=true) :
    ∀ e∈d.entries,∃ b,
      (WireDump.writeBlobs d.dir f.blob 0 (d.entries.zip d.blobs) files).2
        (WireDump.pathOf d.dir e)=some b ∧
      e.size=b.length ∧ e.sha256=hexText (Crypto.hashSha256 ssl b) := by
  intro e he
  obtain ⟨b,heb,hb⟩ := built_octets hbuilt he
  obtain ⟨⟨g,c⟩,hmem,hname,hfile⟩ := writeBlobs_written h hready.blobs (e,b) heb
  have hc := (List.forall₂_iff_zip.mp hbuilt).2 hmem
  have hstep : e.step=g.step := by
    dsimp only at hname
    rw [hc.file,hb.file] at hname
    exact (List.append_cancel_right hname).symm
  obtain ⟨hsize,hsha⟩ := hready.agree e he g (List.of_mem_zip hmem).1 hstep
  exact ⟨c,hfile,hsize.trans hc.size,hsha.trans hc.sha256⟩

/-- What a `flush` that worked left in the files that it names. -/
theorem flush_files (hbuilt : List.Forall₂ (Built ssl) d.entries d.blobs)
    (henabled : d.enabled=true) (h : (d.flush files f).1=true) :
    ∃ kept,(NothingLost (d.stamped f.time).manifest.length f.manifest ↔
        (d.stamped f.time).manifest.length≤kept) ∧
      (d.flush files f).2.2 (WireDump.manifestPath d.dir)=
        some ((d.stamped f.time).manifest.take kept) ∧
      ∀ e∈d.entries,(d.flush files f).2.2 (WireDump.pathOf d.dir e)=
        (WireDump.writeBlobs d.dir f.blob 0 (d.entries.zip d.blobs) files).2
          (WireDump.pathOf d.dir e) := by
  obtain ⟨-,m,hm,hlast,hfiles⟩ := flush_worked henabled h
  rw [hm] at hlast
  obtain ⟨kept,hkept,hwritten⟩ := overwrite_reported hlast
  refine ⟨kept,hkept,?_,?_⟩
  · rw [hfiles,hm,hwritten,Function.update_self]
  · intro e he
    obtain ⟨_,-,hb⟩ := built_octets hbuilt he
    rw [hfiles,hm,hwritten,Function.update_of_ne (pathOf_ne_manifestPath hb.file)]

/-- Entries of one step name one file, so they agree once each is described. -/
theorem agree_of_described {dir : String} {k : Files UInt8}
    (hbuilt : List.Forall₂ (Built ssl) d.entries d.blobs)
    (hd : (d.stamped f.time).Described ssl dir k) :
    ∀ e∈d.entries,∀ g∈d.entries,e.step=g.step → Agree e g := by
  intro e he g hg hstep
  obtain ⟨_,-,hbe⟩ := built_octets hbuilt he
  obtain ⟨_,-,hbg⟩ := built_octets hbuilt hg
  have hpath : WireDump.pathOf dir e=WireDump.pathOf dir g := by
    unfold WireDump.pathOf
    rw [hbe.file,hbg.file,hstep]
  obtain ⟨b,hb,hsize,hsha⟩ := hd.artefacts e he
  obtain ⟨c,hc,hsize',hsha'⟩ := hd.artefacts g hg
  rw [hpath,hc] at hb
  obtain rfl := Option.some.inj hb
  exact ⟨hsize.trans hsize'.symm,hsha.trans hsha'.symm⟩

/-- Exactly then the manifest describes the files after a `flush` that worked. -/
theorem flush_described_iff (hbuilt : List.Forall₂ (Built ssl) d.entries d.blobs)
    (henabled : d.enabled=true) (h : (d.flush files f).1=true) :
    (d.stamped f.time).Described ssl d.dir (d.flush files f).2.2 ↔ Ready d f := by
  obtain ⟨hblobs,-⟩ := flush_worked henabled h
  obtain ⟨kept,hkept,hmanifest,hother⟩ := flush_files hbuilt henabled h
  constructor
  · intro hd
    refine ⟨agree_of_described hbuilt hd,hd.distinct,?_,?_⟩
    · apply writeBlobs_whole hblobs
      rintro ⟨e,b⟩ hmem
      have he := (List.of_mem_zip hmem).1
      have hb := (List.forall₂_iff_zip.mp hbuilt).2 hmem
      obtain ⟨c,hc,hsize,-⟩ := hd.artefacts e he
      rw [hother e he] at hc
      exact ⟨c,hc,hsize.symm.trans hb.size⟩
    · have heq := hmanifest.symm.trans hd.manifest
      have hlen := congrArg List.length (Option.some.inj heq)
      rw [List.length_take] at hlen
      exact hkept.mpr (by omega)
  · intro hready
    refine ⟨?_,?_,hready.distinct⟩
    · rw [hmanifest,List.take_of_length_le (hkept.mp hready.manifest)]
    · intro e he
      have hwhole := writeBlobs_described hbuilt hready hblobs e he
      rw [← hother e he] at hwhole
      exact hwhole

end Flush

end V2xPki.Provisioning
