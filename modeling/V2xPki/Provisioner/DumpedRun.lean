import V2xPki.Provisioner.DumpWrites

namespace V2xPki.Provisioning

open Framework

/-- What was recorded under this step before, if anything, had this length and hash. -/
def WireDump.Consistent (ssl : OpenSsl) (d : WireDump) (step bytes : Bytes) : Prop :=
  ∀ e∈d.entries,e.step=step →
    e.size=bytes.length ∧ e.sha256=hexText (Crypto.hashSha256 ssl bytes)

/-- The condition on one call: a step is recorded again only with the same contents, a metadata
name is new, and a `flush` is the first that is tried and loses nothing unnoticed. -/
def DumpCall.Fits (ssl : OpenSsl) (d : WireDump) : DumpCall → Prop
  | .record step _ bytes _ _ _ => d.enabled=true → d.Consistent ssl step bytes
  | .recordKey name key _ => d.enabled=true → d.withKeys=true → d.Consistent ssl name key
  | .addMeta key _ => d.enabled=true →
      key∉d.keys ∧ key∉d.flushKeys ∧ key≠bytesOfString "artefacts"
  | .flush found => d.enabled=true → bytesOfString "dumped_at_utc"∉d.keys ∧
      WholeWrites found.blob 0 (d.entries.zip d.blobs) ∧
      NothingLost (d.stamped found.time).manifest.length found.manifest

/-- The call hands over a private key. -/
def DumpCall.isKey : DumpCall → Bool
  | .recordKey _ _ _ => true
  | _ => false

/-- Every call of a run meets its condition. -/
def FitRun (ssl : OpenSsl) : Dumping → List DumpCall → Prop
  | _,[] => True
  | s,call::calls => call.Fits ssl s.dump ∧ FitRun ssl (s.perform ssl call) calls

/-- What holds of a dump all of whose calls met their conditions. -/
structure WellRecorded (d : WireDump) : Prop where
  agree : ∀ e∈d.entries,∀ f∈d.entries,e.step=f.step → Agree e f
  nodup : d.keys.Nodup
  artefacts : bytesOfString "artefacts"∉d.keys
  unstamped : bytesOfString "dumped_at_utc"∉d.keys → ∀ k∈d.flushKeys,k∉d.keys

section Steps
variable {ssl : OpenSsl} {d : WireDump}

theorem flushMetas_keys (d : WireDump) (t : Tm) : (d.flushMetas t).map (·.1)=d.flushKeys := by
  unfold WireDump.flushMetas WireDump.flushKeys
  split <;> rfl

theorem stamped_keys (d : WireDump) (t : Tm) : (d.stamped t).keys=d.keys++d.flushKeys := by
  rw [← flushMetas_keys d t]
  exact List.map_append

theorem flushKeys_nodup (d : WireDump) : d.flushKeys.Nodup ∧ bytesOfString "artefacts"∉d.flushKeys := by
  unfold WireDump.flushKeys
  cases d.withKeys with
  | false => decide
  | true => decide

theorem record_wellRecorded (h : WellRecorded d) {step direction bytes note contentType : Bytes}
    {status : Int} (hfits : d.enabled=true → d.Consistent ssl step bytes) :
    WellRecorded (d.record ssl step direction bytes note status contentType) := by
  unfold WireDump.record
  split
  · rename_i henabled
    have hsame := hfits henabled
    refine ⟨?_,h.nodup,h.artefacts,h.unstamped⟩
    intro e he f hf hstep
    rcases List.mem_append.mp he with he | he
    · rcases List.mem_append.mp hf with hf | hf
      · exact h.agree e he f hf hstep
      · obtain rfl := List.mem_singleton.mp hf
        exact hsame e he hstep
    · obtain rfl := List.mem_singleton.mp he
      rcases List.mem_append.mp hf with hf | hf
      · obtain ⟨hsize,hsha⟩ := hsame f hf hstep.symm
        exact ⟨hsize.symm,hsha.symm⟩
      · obtain rfl := List.mem_singleton.mp hf
        exact ⟨rfl,rfl⟩
  · exact h

theorem addMeta_wellRecorded (h : WellRecorded d) {key value : Bytes}
    (hfits : d.enabled=true →
      key∉d.keys ∧ key∉d.flushKeys ∧ key≠bytesOfString "artefacts") :
    WellRecorded (d.addMeta key value) := by
  unfold WireDump.addMeta
  split
  · rename_i henabled
    obtain ⟨hnew,hflush,hartefacts⟩ := hfits henabled
    have hkeys : ∀ k,k∈(d.metas++[(key,value)]).map (·.1) ↔ k∈d.keys ∨ k=key := by
      intro k
      simp [WireDump.keys]
    refine ⟨h.agree,?_,?_,?_⟩
    · show ((d.metas++[(key,value)]).map (·.1)).Nodup
      rw [List.map_append]
      refine List.nodup_append'.mpr ⟨h.nodup,List.nodup_singleton key,?_⟩
      exact List.disjoint_singleton.mpr hnew
    · intro hmem
      rcases (hkeys _).mp hmem with hold | heq
      · exact h.artefacts hold
      · exact hartefacts heq.symm
    · intro hstamp k hk hmem
      rcases (hkeys _).mp hmem with hold | rfl
      · exact h.unstamped (fun hdumped => hstamp ((hkeys _).mpr (.inl hdumped))) k hk hold
      · exact hflush hk
  · exact h

theorem stamped_wellRecorded (h : WellRecorded d)
    (hnew : bytesOfString "dumped_at_utc"∉d.keys) (t : Tm) :
    WellRecorded (d.stamped t) := by
  obtain ⟨hnodup,hartefacts⟩ := flushKeys_nodup d
  refine ⟨h.agree,?_,?_,?_⟩
  · rw [stamped_keys]
    refine List.nodup_append'.mpr ⟨h.nodup,hnodup,?_⟩
    intro k hold hk
    exact h.unstamped hnew k hk hold
  · rw [stamped_keys,List.mem_append,not_or]
    exact ⟨h.artefacts,hartefacts⟩
  · intro hstamp
    rw [stamped_keys] at hstamp
    exact absurd (List.mem_append_right _ List.mem_cons_self) hstamp

theorem perform_wellRecorded {s : Dumping} (h : WellRecorded s.dump) {call : DumpCall}
    (hfits : call.Fits ssl s.dump) : WellRecorded (s.perform ssl call).dump := by
  cases call with
  | record step direction bytes note status contentType => exact record_wellRecorded h hfits
  | recordKey name key note =>
    simp only [Dumping.perform,WireDump.recordKey]
    split
    · rename_i hboth
      obtain ⟨-,hkeys⟩ := Bool.and_eq_true_iff.mp hboth
      exact record_wellRecorded h fun henabled => hfits henabled hkeys
    · exact h
  | addMeta key value => exact addMeta_wellRecorded h hfits
  | flush found =>
    simp only [Dumping.perform]
    rcases flush_dump s.dump s.files found with ⟨-,hsame⟩ | ⟨henabled,⟨-,hdump⟩ | ⟨-,hdump⟩⟩
    · rw [hsame]
      exact h
    · rw [hdump]
      exact stamped_wellRecorded h (hfits henabled).1 found.time
    · have hstamped := stamped_wellRecorded h (hfits henabled).1 found.time
      rw [hdump]
      exact ⟨hstamped.agree,hstamped.nodup,hstamped.artefacts,hstamped.unstamped⟩

theorem run_wellRecorded {s : Dumping} (h : WellRecorded s.dump) {calls : List DumpCall}
    (hfits : FitRun ssl s calls) : WellRecorded (s.run ssl calls).dump := by
  induction calls generalizing s with
  | nil => exact h
  | cons call calls ih => exact ih (perform_wellRecorded h hfits.1) hfits.2

theorem start_wellRecorded (dir : String) (withKeys : Bool) (files : Files UInt8) :
    WellRecorded (Dumping.start dir withKeys files).dump :=
  ⟨by simp [Dumping.start],.nil,by simp [Dumping.start,WireDump.keys],
    by simp [Dumping.start,WireDump.keys]⟩

theorem fitRun_append {s : Dumping} {before after : List DumpCall} :
    FitRun ssl s (before++after) ↔ FitRun ssl s before ∧ FitRun ssl (s.run ssl before) after := by
  induction before generalizing s with
  | nil => simp [FitRun,Dumping.run]
  | cons call before ih =>
    rw [List.cons_append,FitRun,FitRun,ih,and_assoc]
    rfl

end Steps

section Runs
variable {ssl : OpenSsl} {s : Dumping}

theorem run_append (s : Dumping) (before after : List DumpCall) :
    s.run ssl (before++after)=(s.run ssl before).run ssl after := List.foldl_append

/-- What every call preserves, a run preserves. -/
theorem run_invariant (P : Dumping → Prop) (hstep : ∀ s call,P s → P (s.perform ssl call))
    (hs : P s) (calls : List DumpCall) : P (s.run ssl calls) := by
  induction calls generalizing s with
  | nil => exact hs
  | cons call calls ih => exact ih (hstep s call hs)

/-- Once a dump is disabled, nothing changes. -/
theorem run_disabled (h : s.dump.enabled=false) (calls : List DumpCall) : s.run ssl calls=s := by
  have hperform : ∀ call,s.perform ssl call=s := by
    intro call
    cases call with
    | record => simp [Dumping.perform,WireDump.record,h]
    | recordKey => simp [Dumping.perform,WireDump.recordKey,h]
    | addMeta => simp [Dumping.perform,WireDump.addMeta,h]
    | flush => simp [Dumping.perform,WireDump.flush,h]
  induction calls with
  | nil => rfl
  | cons call calls ih => exact (congrArg (Dumping.run ssl · calls) (hperform call)).trans ih

/-- What a call makes of a dump: it leaves it as it is, or adds an entry, or adds metadata and
may disable it. -/
theorem perform_dump (s : Dumping) (call : DumpCall) :
    (s.perform ssl call).dump=s.dump ∨
    (∃ e b,Built ssl e b ∧ (s.perform ssl call).dump=
      {s.dump with entries := s.dump.entries++[e],blobs := s.dump.blobs++[b]}) ∨
    ∃ more dir,(s.perform ssl call).dump=
        {s.dump with metas := s.dump.metas++more,dir := dir} ∧
      (dir=s.dump.dir ∨ dir="") := by
  have hrecord : ∀ step direction bytes note status contentType,
      let d := s.dump.record ssl step direction bytes note status contentType
      d=s.dump ∨ ∃ e b,Built ssl e b ∧
        d={s.dump with entries := s.dump.entries++[e],blobs := s.dump.blobs++[b]} := by
    intro step direction bytes note status contentType
    unfold WireDump.record
    split
    · exact .inr ⟨_,_,⟨rfl,rfl,rfl⟩,rfl⟩
    · exact .inl rfl
  cases call with
  | record step direction bytes note status contentType =>
    rcases hrecord step direction bytes note status contentType with hsame | hentry
    · exact .inl hsame
    · exact .inr (.inl hentry)
  | recordKey name key note =>
    simp only [Dumping.perform,WireDump.recordKey]
    split
    · rcases hrecord name (bytesOfString "key-material") key note 0 [] with hsame | hentry
      · exact .inl hsame
      · exact .inr (.inl hentry)
    · exact .inl rfl
  | addMeta key value =>
    simp only [Dumping.perform,WireDump.addMeta]
    split
    · exact .inr (.inr ⟨_,_,rfl,.inl rfl⟩)
    · exact .inl rfl
  | flush found =>
    simp only [Dumping.perform]
    rcases flush_dump s.dump s.files found with ⟨-,hsame⟩ | ⟨-,⟨-,hdump⟩ | ⟨-,hdump⟩⟩
    · exact .inl hsame
    · exact .inr (.inr ⟨_,_,hdump,.inl rfl⟩)
    · exact .inr (.inr ⟨_,_,hdump,.inr rfl⟩)

/-- A call keeps the settings of a dump, unless it disables it. -/
theorem perform_settings (s : Dumping) (call : DumpCall) :
    (s.perform ssl call).dump.withKeys=s.dump.withKeys ∧
    ((s.perform ssl call).dump.enabled=true → (s.perform ssl call).dump.dir=s.dump.dir) := by
  rcases @perform_dump ssl s call with hsame | ⟨e,b,-,hdump⟩ | ⟨more,dir,hdump,rfl | rfl⟩
  · rw [hsame]
    exact ⟨rfl,fun _ => rfl⟩
  · rw [hdump]
    exact ⟨rfl,fun _ => rfl⟩
  · rw [hdump]
    exact ⟨rfl,fun _ => rfl⟩
  · rw [hdump]
    refine ⟨rfl,?_⟩
    intro henabled
    cases henabled

/-- A dump that is enabled in the end was so all along. -/
theorem enabled_of_run {calls : List DumpCall} (h : (s.run ssl calls).dump.enabled=true) :
    s.dump.enabled=true := by
  by_contra hdisabled
  rw [Bool.not_eq_true] at hdisabled
  rw [run_disabled hdisabled,hdisabled] at h
  cases h

theorem run_withKeys (s : Dumping) (calls : List DumpCall) :
    (s.run ssl calls).dump.withKeys=s.dump.withKeys := by
  apply run_invariant fun s' => s'.dump.withKeys=s.dump.withKeys
  · intro s' call hs'
    exact (perform_settings s' call).1.trans hs'
  · rfl

theorem run_dir {calls : List DumpCall} (h : (s.run ssl calls).dump.enabled=true) :
    (s.run ssl calls).dump.dir=s.dump.dir := by
  induction calls generalizing s with
  | nil => rfl
  | cons call calls ih => exact (ih h).trans ((perform_settings s call).2 (enabled_of_run h))

/-- Without `withKeys` the calls that hand over keys might as well not have been made. -/
theorem run_withoutKeys (h : s.dump.withKeys=false) (calls : List DumpCall) :
    s.run ssl calls=s.run ssl (calls.filter fun c => !c.isKey) := by
  induction calls generalizing s with
  | nil => rfl
  | cons call calls ih =>
    have hnext := ih ((@perform_settings ssl s call).1.trans h)
    cases hkey : call.isKey with
    | false =>
      rw [List.filter_cons_of_pos (by simp [hkey])]
      exact hnext
    | true =>
      have hsame : s.perform ssl call=s := by
        cases call with
        | recordKey => simp [Dumping.perform,WireDump.recordKey,h]
        | record => cases hkey
        | addMeta => cases hkey
        | flush => cases hkey
      rw [List.filter_cons_of_neg (by simp [hkey])]
      rw [hsame] at hnext
      exact (congrArg (Dumping.run ssl · calls) hsame).trans hnext

/-- What follows a `flush` that worked leaves the files as they are. -/
theorem run_flushed {found : FlushSetting} (henabled : s.dump.enabled=true)
    (h : (s.dump.flush s.files found).1=true) (after : List DumpCall) :
    (s.run ssl (.flush found::after)).files=(s.dump.flush s.files found).2.2 := by
  have hdisabled : (s.perform ssl (.flush found)).dump.enabled=false := by
    rcases flush_dump s.dump s.files found with ⟨hfalse,-⟩ | ⟨-,⟨hfalse,-⟩ | ⟨-,hdump⟩⟩
    · rw [hfalse] at henabled
      cases henabled
    · rw [hfalse] at h
      cases h
    · exact congrArg WireDump.enabled hdump
  exact congrArg Dumping.files (run_disabled hdisabled after)

/-- What a call adds: entries and metadata are never taken back. -/
theorem perform_grows (s : Dumping) (call : DumpCall) :
    s.dump.entries<+:(s.perform ssl call).dump.entries ∧
    s.dump.metas<+:(s.perform ssl call).dump.metas := by
  rcases @perform_dump ssl s call with hsame | ⟨e,b,-,hdump⟩ | ⟨more,dir,hdump,-⟩
  · rw [hsame]
    exact ⟨List.prefix_rfl,List.prefix_rfl⟩
  · rw [hdump]
    exact ⟨List.prefix_append _ _,List.prefix_rfl⟩
  · rw [hdump]
    exact ⟨List.prefix_rfl,List.prefix_append _ _⟩

theorem run_grows (s : Dumping) (calls : List DumpCall) :
    s.dump.entries<+:(s.run ssl calls).dump.entries ∧
    s.dump.metas<+:(s.run ssl calls).dump.metas := by
  apply run_invariant fun s' => s.dump.entries<+:s'.dump.entries ∧ s.dump.metas<+:s'.dump.metas
  · rintro s' call ⟨hentries,hmetas⟩
    obtain ⟨hentries',hmetas'⟩ := @perform_grows ssl s' call
    exact ⟨hentries.trans hentries',hmetas.trans hmetas'⟩
  · exact ⟨List.prefix_rfl,List.prefix_rfl⟩

/-- Every entry was built of its octets. -/
theorem perform_built (h : List.Forall₂ (Built ssl) s.dump.entries s.dump.blobs) (call : DumpCall) :
    List.Forall₂ (Built ssl) (s.perform ssl call).dump.entries (s.perform ssl call).dump.blobs := by
  rcases @perform_dump ssl s call with hsame | ⟨e,b,hb,hdump⟩ | ⟨more,dir,hdump,-⟩
  · rw [hsame]
    exact h
  · rw [hdump]
    exact List.rel_append h (.cons hb .nil)
  · rw [hdump]
    exact h

theorem run_built (h : List.Forall₂ (Built ssl) s.dump.entries s.dump.blobs)
    (calls : List DumpCall) :
    List.Forall₂ (Built ssl) (s.run ssl calls).dump.entries (s.run ssl calls).dump.blobs := by
  apply run_invariant fun s' => List.Forall₂ (Built ssl) s'.dump.entries s'.dump.blobs
  · intro s' call hs'
    exact perform_built hs' call
  · exact h

end Runs

section Condition
variable {ssl : OpenSsl} {s : Dumping} {f : FlushSetting}

theorem ready_of_fits {d : WireDump} (h : WellRecorded d) (henabled : d.enabled=true)
    (hfits : (DumpCall.flush f).Fits ssl d) : Ready d f := by
  obtain ⟨hnew,hblobs,hmanifest⟩ := hfits henabled
  have hstamped := stamped_wellRecorded h hnew f.time
  refine ⟨h.agree,?_,hblobs,hmanifest⟩
  exact List.nodup_append'.mpr ⟨hstamped.nodup,List.nodup_singleton _,
    List.disjoint_singleton.mpr hstamped.artefacts⟩

/-- The metadata names of a dump that is ready. -/
theorem Ready.names {d : WireDump} (h : Ready d f) : d.keys.Nodup ∧
    (∀ k∈d.keys,k∉d.flushKeys) ∧ bytesOfString "artefacts"∉d.keys := by
  have hdistinct := h.distinct
  rw [WireDump.topLevel,stamped_keys] at hdistinct
  obtain ⟨hstamped,-,hartefacts⟩ := List.nodup_append'.mp hdistinct
  obtain ⟨hnodup,-,hapart⟩ := List.nodup_append'.mp hstamped
  refine ⟨hnodup,fun k hk hflush => hapart hk hflush,?_⟩
  intro hmem
  exact hartefacts (List.mem_append_left _ hmem) List.mem_cons_self

/-- What was recorded agrees with what was recorded under the same step, when all of it is still
there in a dump that is ready. -/
theorem consistent_of_ready {d d' : WireDump} {step direction bytes note contentType : Bytes}
    {status : Int} (h : Ready d' f) (henabled : d.enabled=true)
    (hgrown : (d.record ssl step direction bytes note status contentType).entries<+:d'.entries) :
    d.Consistent ssl step bytes := by
  intro e he hstep
  rw [WireDump.record,if_pos henabled] at hgrown
  have hold := hgrown.subset (List.mem_append_left _ he)
  have hnew := hgrown.subset (List.mem_append_right _ List.mem_cons_self)
  exact h.agree e hold _ hnew hstep

/-- A `flush` that leaves a dump enabled has stamped it. -/
theorem stamped_of_enabled {found : FlushSetting} (hs : s.dump.enabled=true)
    (henabled : (s.perform ssl (.flush found)).dump.enabled=true) :
    bytesOfString "dumped_at_utc"∈(s.perform ssl (.flush found)).dump.keys := by
  simp only [Dumping.perform] at henabled ⊢
  rcases flush_dump s.dump s.files found with ⟨hfalse,-⟩ | ⟨-,⟨-,hdump⟩ | ⟨-,hdump⟩⟩
  · rw [hfalse] at hs
    cases hs
  · rw [hdump,stamped_keys]
    exact List.mem_append_right _ List.mem_cons_self
  · rw [hdump] at henabled
    cases henabled

/-- In a dump that is ready at the end no call broke its condition: what it added would still
be there. -/
theorem fits_of_ready {call : DumpCall} {d : WireDump}
    (hentries : (s.perform ssl call).dump.entries<+:d.entries)
    (hmetas : (s.perform ssl call).dump.metas<+:d.metas) (hkeys : d.withKeys=s.dump.withKeys)
    (henabled : (s.perform ssl call).dump.enabled=true) (h : Ready d f) :
    call.Fits ssl s.dump := by
  have hflushKeys : d.flushKeys=s.dump.flushKeys := by
    rw [WireDump.flushKeys,WireDump.flushKeys,hkeys]
  obtain ⟨hnodup,hapart,hartefacts⟩ := h.names
  rw [hflushKeys] at hapart
  have hkeysGrown : (s.perform ssl call).dump.keys<+:d.keys := List.IsPrefix.map Prod.fst hmetas
  cases call with
  | record step direction bytes note status contentType =>
    intro hs
    exact consistent_of_ready h hs hentries
  | recordKey name key note =>
    intro hs hwith
    simp only [Dumping.perform,WireDump.recordKey,hs,hwith,Bool.and_self,if_true] at hentries
    exact consistent_of_ready h hs hentries
  | addMeta key value =>
    intro hs
    simp only [Dumping.perform,WireDump.addMeta,hs,if_true,WireDump.keys,List.map_append,
      List.map_cons,List.map_nil] at hkeysGrown
    have hmem := hkeysGrown.subset (List.mem_append_right _ (List.mem_singleton_self key))
    have hown := List.Nodup.sublist hkeysGrown.sublist hnodup
    refine ⟨?_,?_,?_⟩
    · exact List.disjoint_singleton.mp (List.nodup_append'.mp hown).2.2
    · exact hapart key hmem
    · rintro rfl
      exact hartefacts hmem
  | flush found =>
    intro hs
    have hstamp := hkeysGrown.subset (stamped_of_enabled hs henabled)
    exact absurd List.mem_cons_self (hapart _ hstamp)

theorem fitRun_of_ready {calls : List DumpCall} (henabled : (s.run ssl calls).dump.enabled=true)
    (h : Ready (s.run ssl calls).dump f) : FitRun ssl s calls := by
  induction calls generalizing s with
  | nil => trivial
  | cons call calls ih =>
    refine ⟨?_,ih henabled h⟩
    obtain ⟨hentries,hmetas⟩ := @run_grows ssl (s.perform ssl call) calls
    have hkeys := @run_withKeys ssl s (call::calls)
    exact fits_of_ready hentries hmetas hkeys (enabled_of_run henabled) h

/-- A run up to its `flush` meets the conditions exactly if it has made the dump ready. -/
theorem fitRun_iff_ready {calls : List DumpCall} (hs : WellRecorded s.dump)
    (henabled : (s.run ssl calls).dump.enabled=true) :
    FitRun ssl s (calls++[.flush f]) ↔ Ready (s.run ssl calls).dump f := by
  rw [fitRun_append]
  constructor
  · rintro ⟨hcalls,hflush,-⟩
    exact ready_of_fits (run_wellRecorded hs hcalls) henabled hflush
  · intro h
    refine ⟨fitRun_of_ready henabled h,?_,trivial⟩
    intro _
    obtain ⟨-,hapart,-⟩ := h.names
    exact ⟨fun hmem => hapart _ hmem List.mem_cons_self,h.blobs,h.manifest⟩

/-- Whatever was recorded and whatever follows: after a `flush` that worked the manifest
describes the files exactly if the calls up to it met their conditions. -/
theorem run_described_iff (dir : String) (withKeys : Bool) (files : Files UInt8)
    (before after : List DumpCall) (found : FlushSetting)
    (henabled : ((Dumping.start dir withKeys files).run ssl before).dump.enabled=true)
    (h : (((Dumping.start dir withKeys files).run ssl before).dump.flush
      ((Dumping.start dir withKeys files).run ssl before).files found).1=true) :
    (((Dumping.start dir withKeys files).run ssl before).dump.stamped found.time).Described ssl dir
        ((Dumping.start dir withKeys files).run ssl (before++.flush found::after)).files ↔
      FitRun ssl (.start dir withKeys files) (before++[.flush found]) := by
  have hbuilt := @run_built ssl (.start dir withKeys files) .nil before
  have hdir : ((Dumping.start dir withKeys files).run ssl before).dump.dir=dir := run_dir henabled
  have hend := flush_described_iff hbuilt henabled h
  rw [hdir] at hend
  rw [run_append,run_flushed henabled h after,hend]
  exact (fitRun_iff_ready (start_wellRecorded dir withKeys files) henabled).symm

end Condition

end V2xPki.Provisioning
