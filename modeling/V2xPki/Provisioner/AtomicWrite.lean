import V2xPki.Provisioner.KeyPem

namespace V2xPki.Provisioning

open Framework

/-- How the calls of one `atomic_write` of `n` octets go. `fwrite` takes some of them, of
which `onDisk` are in the file once it is closed; `fclose` does not claim success when what
was taken did not get there. -/
structure StdioCalls (n : Nat) where
  opened : Bool
  taken : Nat
  onDisk : Nat
  closed : Bool
  renamed : Bool
  unlinked : Bool
  taken_le : taken≤n
  onDisk_le : onDisk≤taken
  honest : closed=true → onDisk=taken

/-- `atomic_write`, call by call: what `fclose` returns is dropped. -/
def atomicWriteCalls (files : Files UInt8) (path : String) (data : Bytes)
    (calls : StdioCalls data.length) : Bool × Files UInt8 :=
  let tmp := path++".tmp"
  if calls.opened=false then (false,files)
  else
    let closed : Files UInt8 := Function.update files tmp (some (data.take calls.onDisk))
    if calls.taken≠data.length then (false,closed.unlink tmp calls.unlinked)
    else if calls.renamed=false then (false,closed.unlink tmp calls.unlinked)
    else (true,Function.update (Function.update files tmp none) path
      (some (data.take calls.onDisk)))

namespace StdioCalls

/-- The attempt these calls make up: all is well when `fwrite` took everything. -/
def replacing {n : Nat} (calls : StdioCalls n) : Files.Replacing where
  fill := if calls.opened then .filled calls.onDisk (calls.taken==n) else .notOpened
  renamed := calls.renamed
  unlinked := calls.unlinked

/-- `fopen`, `fwrite` and `rename` succeed, but closing the file loses a part of it. -/
structure LostOnClose {n : Nat} (calls : StdioCalls n) : Prop where
  opened : calls.opened=true
  taken : calls.taken=n
  renamed : calls.renamed=true
  lost : calls.onDisk<n

variable {n : Nat} {calls : StdioCalls n}

theorem reported_iff : calls.replacing.reported=true ↔
    calls.opened=true ∧ calls.taken=n ∧ calls.renamed=true := by
  unfold replacing Files.Replacing.reported
  cases hopened : calls.opened with
  | false => simp
  | true => simp

/-- Only `fclose` can tell that this has happened. -/
theorem LostOnClose.closed (h : calls.LostOnClose) : calls.closed=false := by
  by_contra hne
  have hall := calls.honest (by simpa using hne)
  have htaken := h.taken
  have hlost := h.lost
  omega

/-- Unless closing loses something, a reported success is one of the whole data. -/
theorem whole_of_not_lost (h : ¬calls.LostOnClose) : calls.replacing.Whole n := by
  intro hreported
  obtain ⟨hopened,htaken,hrenamed⟩ := reported_iff.mp hreported
  have hkept : n≤calls.onDisk := by
    by_contra hlt
    exact h ⟨hopened,htaken,hrenamed,by omega⟩
  simp [replacing,hopened,htaken,Fill.Whole,hkept]

end StdioCalls

section
variable {files : Files UInt8} {path : String} {data : Bytes}

/-- Call by call the function does what the attempt as a whole stands for. -/
theorem atomicWriteCalls_eq (files : Files UInt8) (path : String) (data : Bytes)
    (calls : StdioCalls data.length) :
    atomicWriteCalls files path data calls=atomicWrite files path data calls.replacing := by
  unfold atomicWriteCalls atomicWrite Files.replace StdioCalls.replacing
  cases calls.opened with
  | false => rfl
  | true =>
    by_cases htaken : calls.taken=data.length
    · simp only [htaken,Bool.true_eq_false,if_false,ne_eq,not_true,if_true,beq_self_eq_true]
    · simp [htaken]

/-- True is returned with the data in the file, and false with the file as it was. -/
def AllOrNothing (files : Files UInt8) (path : String) (data : Bytes)
    (calls : StdioCalls data.length) : Prop :=
  ((atomicWriteCalls files path data calls).1=true →
    (atomicWriteCalls files path data calls).2 path=some data) ∧
  ((atomicWriteCalls files path data calls).1=false →
    (atomicWriteCalls files path data calls).2 path=files path)

/-- A write is all or nothing unless a part of the data is lost when the file is closed. -/
theorem atomicWrite_allOrNothing_iff (files : Files UInt8) (path : String) (data : Bytes)
    (calls : StdioCalls data.length) :
    AllOrNothing files path data calls ↔ ¬calls.LostOnClose := by
  unfold AllOrNothing
  rw [atomicWriteCalls_eq,atomicWrite_reported]
  constructor
  · intro h hlost
    have hreported := StdioCalls.reported_iff.mpr ⟨hlost.opened,hlost.taken,hlost.renamed⟩
    have hdata := h.1 hreported
    have hcut : atomicWrite files path data calls.replacing=(true,Function.update
        (Function.update files (path++".tmp") none) path (some (data.take calls.onDisk))) := by
      rw [← atomicWriteCalls_eq,atomicWriteCalls]
      simp [hlost.opened,hlost.taken,hlost.renamed]
    rw [hcut] at hdata
    dsimp only at hdata
    rw [Function.update_self] at hdata
    have hlen := congrArg List.length (Option.some.inj hdata)
    have hlt := hlost.lost
    rw [List.length_take] at hlen
    omega
  · intro h
    exact ⟨fun hreported => atomicWrite_worked hreported (StdioCalls.whole_of_not_lost h),
      atomicWrite_failed⟩

end

/-- A full disk that is noticed when the file is closed. -/
def fullDisk : StdioCalls 3 where
  opened := true
  taken := 3
  onDisk := 1
  closed := false
  renamed := true
  unlinked := true
  taken_le := by decide
  onDisk_le := by decide
  honest := by decide

/-- One octet of three replaces the file that was there, and the write is called a success. -/
theorem fullDisk_not_allOrNothing :
    (atomicWriteCalls (Function.update Files.empty "AT.coer" (some [9,9])) "AT.coer" [1,2,3]
      fullDisk).1=true ∧
    (atomicWriteCalls (Function.update Files.empty "AT.coer" (some [9,9])) "AT.coer" [1,2,3]
      fullDisk).2 "AT.coer"=some [1] ∧
    ¬AllOrNothing (Function.update Files.empty "AT.coer" (some [9,9])) "AT.coer" [1,2,3]
      fullDisk := by
  have hcut : (atomicWriteCalls (Function.update Files.empty "AT.coer" (some [9,9])) "AT.coer"
      [1,2,3] fullDisk).2 "AT.coer"=some [1] := by decide
  refine ⟨by decide,hcut,?_⟩
  intro h
  have hdata := h.1 (by decide)
  rw [hcut] at hdata
  exact absurd hdata (by decide)

end V2xPki.Provisioning
