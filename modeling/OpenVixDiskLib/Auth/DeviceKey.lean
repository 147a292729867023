import OpenVixDiskLib.Text
import Mathlib.Data.List.Nodup

/-!
# The disk a writable ticket is for

`_virtual_disk_key` walks the devices of a VM in the order vSphere lists them, and the backing chain of
each virtual disk from its leaf to the base, and returns the key of the first disk whose chain has the
path. So the path of a disk's leaf is resolved to another disk when that one is listed earlier and has
the path among its ancestors (`virtualDiskKey_finds_clone`), as a linked clone of the disk does.

`virtualDiskKey_right_iff` is the exact condition, from a fact about first matches in a list
(`List.find?_prefers_iff`).
-/

set_option autoImplicit false
set_option relaxedAutoImplicit false

/-! ### First matches -/

namespace List

variable {α : Type}

/-- An element that satisfies `p` and not `q` stands before every element that satisfies `q`. -/
def Shadows (p q : α → Prop) (l : List α) : Prop :=
  ∃ front x back, l = front ++ x :: back ∧ p x ∧ ¬ q x ∧ (∀ y ∈ front, ¬ q y) ∧ ∃ y ∈ back, q y

/-- The first element that satisfies `p` satisfies the stronger `q`, where some element does, if and only
if no element shadows those of `q`. -/
theorem find?_prefers_iff {p : α → Bool} {q : α → Prop} {l : List α} {found : α}
    (hstronger : ∀ x, q x → p x = true) (hfound : l.find? p = some found) :
    ((∃ y ∈ l, q y) → q found) ↔ ¬ l.Shadows (fun x ↦ p x = true) q := by
  obtain ⟨hp, front, back, rfl, hfront⟩ := find?_eq_some_iff_append.mp hfound
  have hnone : ∀ x ∈ front, ¬ q x := by
    intro x hx hq
    have hmiss := hfront x hx
    rw [hstronger x hq] at hmiss
    cases hmiss
  constructor
  · rintro hprefers ⟨front', x, back', hsplit, hpx, hqx, hfront', y, hy, hqy⟩
    have hmem : y ∈ front ++ found :: back := by
      rw [hsplit]
      exact mem_append_right _ (mem_cons_of_mem _ hy)
    have hq : q found := hprefers ⟨y, hmem, hqy⟩
    -- The first match is no later than `x`, and neither it nor what is before it satisfies `q`.
    obtain ⟨middle, hleft, hright⟩ | ⟨middle, hleft, hright⟩ := append_eq_append_iff.mp hsplit
    · rcases middle with _ | ⟨z, middle⟩
      · rw [nil_append, cons.injEq] at hright
        exact hqx (hright.1 ▸ hq)
      · rw [cons_append, cons.injEq] at hright
        refine hfront' found ?_ hq
        rw [hleft, hright.1]
        exact mem_append_right _ mem_cons_self
    · rcases middle with _ | ⟨z, middle⟩
      · rw [nil_append, cons.injEq] at hright
        exact hqx (hright.1 ▸ hq)
      · rw [cons_append, cons.injEq] at hright
        have hmiss := hfront x (by
          rw [hleft, hright.1]
          exact mem_append_right _ mem_cons_self)
        rw [hpx] at hmiss
        cases hmiss
  · rintro hclear ⟨y, hy, hqy⟩
    by_contra hq
    refine hclear ⟨front, found, back, rfl, hp, hq, hnone, y, ?_, hqy⟩
    rcases mem_append.mp hy with hbefore | hfrom
    · exact absurd hqy (hnone y hbefore)
    · rcases mem_cons.mp hfrom with rfl | hbehind
      · exact absurd hqy hq
      · exact hbehind

end List

namespace OpenVixDiskLib

/-! ### Devices -/

/-- A disk backing and the backings it is a delta of. A kind of backing without a file has no name. -/
inductive Backing
  | base (fileName : Option String)
  | delta (fileName : Option String) (parent : Backing)
deriving DecidableEq, Repr

/-- A `VirtualDisk` device. -/
structure VirtualDisk where
  key : ℤ
  backing : Option Backing
deriving DecidableEq, Repr

/-- A device of a VM; `other` is any device that is not a `VirtualDisk`. -/
inductive Device
  | disk (disk : VirtualDisk)
  | other (key : ℤ)
deriving DecidableEq, Repr

/-- A VM with the devices of its hardware, in the order vSphere lists them. -/
structure VirtualMachine where
  moId : String
  host : String
  devices : List Device
deriving DecidableEq, Repr

/-- The inner loop of `_virtual_disk_key`: some backing of the chain has the path. -/
def Backing.finds (diskPath : String) : Backing → Bool
  | base fileName => fileName = some diskPath
  | delta fileName parent => fileName = some diskPath || parent.finds diskPath

def VirtualDisk.finds (disk : VirtualDisk) (diskPath : String) : Bool :=
  match disk.backing with
  | none => false
  | some backing => backing.finds diskPath

/-- The outer loop of `_virtual_disk_key`. -/
def deviceKey (diskPath : String) : List Device → Option ℤ
  | [] => none
  | .other _ :: devices => deviceKey diskPath devices
  | .disk disk :: devices =>
    if disk.finds diskPath then some disk.key else deviceKey diskPath devices

/-- `_virtual_disk_key`. -/
def virtualDiskKey (vm : VirtualMachine) (diskPath : String) : Except PyError ℤ :=
  match deviceKey diskPath vm.devices with
  | some key => .ok key
  | none =>
    .error (valueError s!"VMDK path {reprText diskPath} is not attached to {vm.moId}")

/-- The ticket calls of the NFC service. -/
inductive TicketCall
  | getVmFiles
  | randomAccessOpenReadonly (diskDeviceKey : ℤ) (hostForAccess : String)
  | randomAccessOpen (diskDeviceKey : ℤ) (hostForAccess : String)
deriving DecidableEq, Repr

/-- The `VirtualDisk` key of a ticket that names a disk. -/
def ticketKey (vm : VirtualMachine) (diskDeviceKey : Option ℤ) (diskPath : Option String) :
    Except PyError ℤ :=
  match diskDeviceKey, diskPath with
  | some key, _ => .ok key
  | none, none => .error (valueError "writable NFC tickets need disk_path or disk_device_key")
  | none, some diskPath => virtualDiskKey vm diskPath

/-- `get_nfc_ticket`: the call it makes for a VM. -/
def getNfcTicket (vm : VirtualMachine) (diskDeviceKey : Option ℤ) (hostForAccess : Option String)
    (readOnly : Bool) (diskPath : Option String) : Except PyError TicketCall :=
  if readOnly = true ∧ diskDeviceKey = none ∧ diskPath = none then .ok .getVmFiles
  else
    (ticketKey vm diskDeviceKey diskPath).map fun key ↦
      let host := hostForAccess.getD vm.host
      if readOnly then .randomAccessOpenReadonly key host else .randomAccessOpen key host

/-! ### Chains -/

/-- The file names of a backing chain, the leaf first. -/
def Backing.chain : Backing → List (Option String)
  | base fileName => [fileName]
  | delta fileName parent => fileName :: parent.chain

/-- The file names of a disk's chain, the attached leaf first. -/
def VirtualDisk.chain (disk : VirtualDisk) : List (Option String) :=
  disk.backing.elim [] Backing.chain

/-- The path is the attached leaf of the disk. -/
def VirtualDisk.HasLeaf (diskPath : String) (disk : VirtualDisk) : Prop :=
  disk.chain.head? = some (some diskPath)

instance (diskPath : String) (disk : VirtualDisk) : Decidable (disk.HasLeaf diskPath) :=
  inferInstanceAs (Decidable (_ = _))

/-- The virtual disks of a VM, in the order of its devices. -/
def VirtualMachine.disks (vm : VirtualMachine) : List VirtualDisk :=
  vm.devices.filterMap fun device ↦
    match device with
    | .disk disk => some disk
    | .other _ => none

theorem Backing.finds_iff {diskPath : String} (backing : Backing) :
    backing.finds diskPath = true ↔ some diskPath ∈ backing.chain := by
  induction backing with
  | base fileName => rw [finds, chain, List.mem_singleton, decide_eq_true_iff, eq_comm]
  | delta fileName parent ih =>
    rw [finds, chain, List.mem_cons, Bool.or_eq_true, decide_eq_true_iff, ih, eq_comm]

theorem VirtualDisk.finds_iff {diskPath : String} {disk : VirtualDisk} :
    disk.finds diskPath = true ↔ some diskPath ∈ disk.chain := by
  unfold VirtualDisk.finds VirtualDisk.chain
  rcases disk.backing with _ | backing
  · simp
  · exact backing.finds_iff

theorem VirtualDisk.HasLeaf.finds {diskPath : String} {disk : VirtualDisk}
    (hleaf : disk.HasLeaf diskPath) : disk.finds diskPath = true :=
  VirtualDisk.finds_iff.mpr (List.mem_of_mem_head? hleaf)

/-- The loop over the devices finds the first virtual disk that has the path in its chain. -/
theorem deviceKey_eq_find? (diskPath : String) (vm : VirtualMachine) :
    deviceKey diskPath vm.devices =
      (vm.disks.find? fun disk ↦ disk.finds diskPath).map VirtualDisk.key := by
  unfold VirtualMachine.disks
  induction vm.devices with
  | nil => rfl
  | cons device devices ih =>
    cases device with
    | other key => exact ih
    | disk disk =>
      change (if disk.finds diskPath then _ else _) = Option.map _ (List.find? _ (disk :: _))
      by_cases hfinds : disk.finds diskPath = true
      · simp only [hfinds, if_true, List.find?_cons, Option.map_some]
      · rw [Bool.not_eq_true] at hfinds
        simp only [hfinds, Bool.false_eq_true, if_false, List.find?_cons, ih]

/-- What the key of a path should be. A path in no chain is a `ValueError`, any other path gives the key
of a disk with the path in its chain, and the path of an attached leaf gives the key of a disk whose leaf
it is. -/
structure RightKey (vm : VirtualMachine) (diskPath : String) (result : Except PyError ℤ) : Prop where
  raises : (∃ error, result = .error error ∧ error.kind = .valueError) ↔
    ∀ disk ∈ vm.disks, some diskPath ∉ disk.chain
  in_chain : ∀ key, result = .ok key →
    ∃ disk ∈ vm.disks, disk.key = key ∧ some diskPath ∈ disk.chain
  leaf : ∀ key, result = .ok key → (∃ disk ∈ vm.disks, disk.HasLeaf diskPath) →
    ∃ disk ∈ vm.disks, disk.key = key ∧ disk.HasLeaf diskPath

/-- The path is the leaf of a disk, and a disk listed before all of those has it as an ancestor of its
own leaf. -/
def ClonedEarlier (vm : VirtualMachine) (diskPath : String) : Prop :=
  vm.disks.Shadows (fun disk ↦ some diskPath ∈ disk.chain) (VirtualDisk.HasLeaf diskPath)

/-- For a VM whose disks have distinct keys, the key of a path is the right one if and only if the path is
not an ancestor of a disk listed before the disks whose leaf it is. A writable ticket for the path
alone is requested with the key. -/
theorem virtualDiskKey_right_iff (vm : VirtualMachine) (diskPath : String)
    (hkeys : (vm.disks.map VirtualDisk.key).Nodup) :
    (RightKey vm diskPath (virtualDiskKey vm diskPath) ↔ ¬ ClonedEarlier vm diskPath) ∧
      ∀ hostForAccess, getNfcTicket vm none hostForAccess false (some diskPath) =
        (virtualDiskKey vm diskPath).map fun key ↦
          .randomAccessOpen key (hostForAccess.getD vm.host) := by
  refine ⟨?_, fun hostForAccess ↦ ?_⟩
  · have hshadows : ClonedEarlier vm diskPath ↔
        vm.disks.Shadows (fun disk ↦ disk.finds diskPath = true) (VirtualDisk.HasLeaf diskPath) := by
      simp only [ClonedEarlier, VirtualDisk.finds_iff]
    have hloop := deviceKey_eq_find? diskPath vm
    unfold virtualDiskKey
    rcases hfind : vm.disks.find? fun disk ↦ disk.finds diskPath with _ | found
    · rw [hfind] at hloop
      rw [hloop]
      have hmiss : ∀ disk ∈ vm.disks, some diskPath ∉ disk.chain := fun disk hmem hchain ↦
        List.find?_eq_none.mp hfind disk hmem (VirtualDisk.finds_iff.mpr hchain)
      refine iff_of_true ⟨iff_of_true ⟨_, rfl, rfl⟩ hmiss, ?_, ?_⟩ ?_
      · exact fun key hvalue ↦ by cases hvalue
      · exact fun key hvalue ↦ by cases hvalue
      · rintro ⟨front, disk, back, hsplit, hchain, -⟩
        refine hmiss disk ?_ hchain
        rw [hsplit]
        exact List.mem_append_right _ List.mem_cons_self
    · rw [hfind] at hloop
      rw [hloop, hshadows]
      have hmem := List.mem_of_find?_eq_some hfind
      obtain ⟨hfound, -⟩ := List.find?_eq_some_iff_append.mp hfind
      have hchain := VirtualDisk.finds_iff.mp hfound
      rw [← List.find?_prefers_iff (fun _ ↦ VirtualDisk.HasLeaf.finds) hfind]
      constructor
      · intro hright hleaf
        obtain ⟨disk, hdisk, hkey, hdiskLeaf⟩ := hright.leaf found.key rfl hleaf
        rwa [List.inj_on_of_nodup_map hkeys hdisk hmem hkey] at hdiskLeaf
      · intro hprefers
        refine ⟨iff_of_false ?_ fun hmiss ↦ hmiss found hmem hchain, ?_, ?_⟩
        · rintro ⟨error, hvalue, -⟩
          cases hvalue
        · intro key hvalue
          obtain rfl := Except.ok.inj hvalue
          exact ⟨found, hmem, rfl, hchain⟩
        · intro key hvalue hleaf
          obtain rfl := Except.ok.inj hvalue
          exact ⟨found, hmem, rfl, hprefers hleaf⟩
  · rw [getNfcTicket, if_neg (fun h ↦ Bool.false_ne_true h.1)]
    rfl

/-- A VM that has a disk and, listed before it, a linked clone of the disk. -/
def clonedFirst : VirtualMachine where
  moId := "vm-13098"
  host := "host-13001"
  devices := [
    .other 1000,
    .disk ⟨2000, some (.delta (some "[ds] clone/clone.vmdk") (.base (some "[ds] vm/vm.vmdk")))⟩,
    .disk ⟨2001, some (.base (some "[ds] vm/vm.vmdk"))⟩]

theorem virtualDiskKey_right_clone :
    RightKey clonedFirst "[ds] clone/clone.vmdk"
      (virtualDiskKey clonedFirst "[ds] clone/clone.vmdk") := by
  obtain ⟨hiff, -⟩ :=
    virtualDiskKey_right_iff clonedFirst "[ds] clone/clone.vmdk" (by decide)
  refine hiff.mpr ?_
  rintro ⟨front, disk, back, hsplit, hchain, hleaf, -⟩
  have hmem : disk ∈ clonedFirst.disks := by
    rw [hsplit]
    exact List.mem_append_right _ List.mem_cons_self
  have hall : ∀ disk ∈ clonedFirst.disks, some "[ds] clone/clone.vmdk" ∈ disk.chain →
      disk.HasLeaf "[ds] clone/clone.vmdk" := by decide +kernel
  exact hleaf (hall disk hmem hchain)

/-- The path of the second disk's leaf gives the key of the clone, so a writable ticket for it is
requested for the clone's disk. -/
theorem virtualDiskKey_finds_clone :
    (clonedFirst.disks.map VirtualDisk.key).Nodup ∧
      (∃ disk ∈ clonedFirst.disks, disk.HasLeaf "[ds] vm/vm.vmdk") ∧
      virtualDiskKey clonedFirst "[ds] vm/vm.vmdk" = .ok 2000 ∧
      (∀ disk ∈ clonedFirst.disks, disk.key = 2000 → ¬ disk.HasLeaf "[ds] vm/vm.vmdk") ∧
      getNfcTicket clonedFirst none none false (some "[ds] vm/vm.vmdk") =
        .ok (.randomAccessOpen 2000 "host-13001") := by
  decide +kernel

end OpenVixDiskLib
