/-
This file proves that a switch built from registrations is the partial map that
they list, with the error device wherever they say nothing.

A registration changes what stands under its own major number and nothing else,
whether its slot is there already, is an empty one, or has to be made. So after
each registration the switch is the map of those made so far. The map does not
depend on their order, and a registration fails only by what stands in front of
it.
-/

import Mathlib.Data.List.Induction
import SixthEdition.DeviceSwitch

namespace SixthEdition.DeviceSwitch

/-! ### One registration -/

/-- What comes of registering a device. -/
inductive Registered (switch : DeviceSwitch) (major : UInt8) (device : Device) :
    Except RegistrationFault DeviceSwitch → Prop where
  | reserved (zero : major = 0) : Registered switch major device (.error .reservedMajor)
  | duplicate {found : Device} (nonzero : major ≠ 0)
      (taken : switch.registered? major = some found) :
      Registered switch major device (.error (.duplicate major))
  | added {next : DeviceSwitch} (nonzero : major ≠ 0) (free : switch.registered? major = none)
      (registered : ∀ other, next.registered? other =
        if other = major then some device else switch.registered? other)
      (size_eq : next.size = max switch.size (major.toNat + 1)) :
      Registered switch major device (.ok next)

/-- A longer table of slots holds what the shorter one held. -/
theorem join_getElem?_padded (slots : List (Option Device)) (count place : Nat) :
    (slots ++ List.replicate count none)[place]?.join = slots[place]?.join := by
  rw [List.getElem?_append]
  split
  · rfl
  · next outside =>
    rw [List.getElem?_replicate, List.getElem?_eq_none (Nat.le_of_not_lt outside)]
    split <;> rfl

/-- A device in its slot is found under its own major number, and all others under theirs. -/
theorem registered?_set {major : UInt8} {slot : Nat} (isSlot : major.toNat = slot + 1)
    (switch : DeviceSwitch) (device : Device) (other : UInt8) :
    let slots := switch.slots ++ List.replicate (slot + 1 - switch.slots.length) none
    (DeviceSwitch.mk (slots.set slot (some device))).registered? other =
      if other = major then some device else switch.registered? other := by
  intro slots
  have inside : slot < slots.length := by
    rw [List.length_append, List.length_replicate]
    omega
  unfold registered?
  split
  · next zero =>
    have other_ne : other ≠ major := by
      rintro rfl
      rw [zero] at isSlot
      cases isSlot
    rw [if_neg other_ne]
  · next place isPlace =>
    have slot_eq_iff : slot = place ↔ other = major := by
      rw [← UInt8.toNat_inj, isPlace, isSlot]
      omega
    rw [List.getElem?_set, if_congr slot_eq_iff rfl rfl, if_pos inside]
    split
    · rfl
    · exact join_getElem?_padded ..

theorem register_registered (switch : DeviceSwitch) (major : UInt8) (device : Device) :
    Registered switch major device (switch.register major device) := by
  unfold register
  split
  · next zero => exact .reserved (UInt8.toNat_inj.mp zero)
  · next slot isSlot =>
    have nonzero : major ≠ 0 := by
      rintro rfl
      cases isSlot
    cases found : switch.registered? major with
    | some device => exact .duplicate nonzero found
    | none =>
      refine .added nonzero found (registered?_set isSlot switch device) ?_
      simp only [size, List.length_set, List.length_append, List.length_replicate]
      omega

/-! ### All registrations -/

variable {registrations earlier later : List (UInt8 × Device)} {major : UInt8} {device : Device}
  {switch : DeviceSwitch} {fault : RegistrationFault}

/-- Registrations under different major numbers, none of them zero. -/
structure Sound (registrations : List (UInt8 × Device)) : Prop where
  unreserved : 0 ∉ registrations.map Prod.fst
  distinct : (registrations.map Prod.fst).Nodup

/-- The highest major number with a device; zero if there is none. -/
def highest (registrations : List (UInt8 × Device)) : Nat :=
  (registrations.map fun registration => registration.1.toNat).foldl max 0

/-- A registration under this major number cannot be made behind the earlier ones. -/
inductive Offends (earlier : List (UInt8 × Device)) (major : UInt8) : RegistrationFault → Prop where
  | reserved (zero : major = 0) : Offends earlier major .reservedMajor
  | duplicate (seen : major ∈ earlier.map Prod.fst) : Offends earlier major (.duplicate major)

/-- The first registration that cannot be made, and its fault. -/
structure FirstOffence (registrations earlier : List (UInt8 × Device)) (major : UInt8)
    (device : Device) (later : List (UInt8 × Device)) (fault : RegistrationFault) : Prop where
  place : registrations = earlier ++ (major, device) :: later
  sound : Sound earlier
  offends : Offends earlier major fault

/-- A switch is the map that the registrations list. -/
structure Holds (registrations : List (UInt8 × Device)) (switch : DeviceSwitch) : Prop where
  sound : Sound registrations
  registered : ∀ major device,
    switch.registered? major = some device ↔ (major, device) ∈ registrations
  size_eq : switch.size = 1 + highest registrations

theorem mem_majors_iff :
    major ∈ registrations.map Prod.fst ↔ ∃ device, (major, device) ∈ registrations := by
  simp only [List.mem_map, Prod.exists, exists_and_right, exists_eq_right]

theorem Sound.perm {reordered : List (UInt8 × Device)} (sound : Sound registrations)
    (same : reordered.Perm registrations) : Sound reordered where
  unreserved zero := sound.unreserved ((same.map Prod.fst).mem_iff.mp zero)
  distinct := (same.map Prod.fst).nodup_iff.mpr sound.distinct

theorem Sound.of_sublist (sound : Sound registrations) (sublist : earlier.Sublist registrations) :
    Sound earlier where
  unreserved zero := sound.unreserved ((sublist.map Prod.fst).subset zero)
  distinct := sound.distinct.sublist (sublist.map Prod.fst)

theorem sound_cons_iff : Sound ((major, device) :: later) ↔
    Sound later ∧ major ≠ 0 ∧ major ∉ later.map Prod.fst := by
  constructor
  · rintro ⟨unreserved, distinct⟩
    rw [List.map_cons, List.mem_cons, not_or] at unreserved
    rw [List.map_cons, List.nodup_cons] at distinct
    exact ⟨⟨unreserved.2, distinct.2⟩, Ne.symm unreserved.1, distinct.1⟩
  · rintro ⟨⟨unreserved, distinct⟩, nonzero, unseen⟩
    exact ⟨List.not_mem_cons_of_ne_of_not_mem (Ne.symm nonzero) unreserved,
      List.nodup_cons.mpr ⟨unseen, distinct⟩⟩

theorem sound_concat_iff : Sound (earlier ++ [(major, device)]) ↔
    Sound earlier ∧ major ≠ 0 ∧ major ∉ earlier.map Prod.fst := by
  have same := List.perm_append_singleton (major, device) earlier
  rw [← sound_cons_iff]
  exact ⟨fun sound => sound.perm same.symm, fun sound => sound.perm same⟩

namespace Holds

theorem bare : Holds [] bare where
  sound := ⟨List.not_mem_nil, List.nodup_nil⟩
  registered major device := by
    unfold registered?
    split <;> simp [DeviceSwitch.bare]
  size_eq := rfl

theorem registered?_eq_none_iff (holds : Holds registrations switch) :
    switch.registered? major = none ↔ major ∉ registrations.map Prod.fst := by
  simp only [Option.eq_none_iff_forall_ne_some, mem_majors_iff, not_exists, ne_eq, holds.registered]

/-- A registration behind the others. -/
theorem register (holds : Holds earlier switch) (major : UInt8) (device : Device) :
    (∃ next, switch.register major device = .ok next ∧
      Holds (earlier ++ [(major, device)]) next) ∨
    ∃ fault, switch.register major device = .error fault ∧ Offends earlier major fault := by
  have outcome := register_registered switch major device
  generalize switch.register major device = result at outcome ⊢
  cases outcome with
  | reserved zero => exact .inr ⟨_, rfl, .reserved zero⟩
  | duplicate nonzero taken =>
    exact .inr ⟨_, rfl, .duplicate (mem_majors_iff.mpr ⟨_, (holds.registered _ _).mp taken⟩)⟩
  | added nonzero free registered size_eq =>
    have unseen := holds.registered?_eq_none_iff.mp free
    refine .inl ⟨_, rfl, sound_concat_iff.mpr ⟨holds.sound, nonzero, unseen⟩, ?_, ?_⟩
    · intro other found
      rw [registered, List.mem_append, List.mem_singleton, Prod.mk.injEq, ← holds.registered]
      by_cases same : other = major
      · rw [if_pos same, same, free]
        simp [eq_comm]
      · simp [same]
    · rw [size_eq, holds.size_eq, highest, highest, List.map_append, List.foldl_append]
      simp only [List.map_cons, List.map_nil, List.foldl_cons, List.foldl_nil]
      omega

/-- The fault depends only on what is registered. -/
theorem register_of_offends (holds : Holds earlier switch) (offends : Offends earlier major fault) :
    switch.register major device = .error fault := by
  have outcome := register_registered switch major device
  generalize switch.register major device = result at outcome ⊢
  have seen_ne_zero (seen : major ∈ earlier.map Prod.fst) : major ≠ 0 := by
    rintro rfl
    exact holds.sound.unreserved seen
  cases offends with
  | reserved zero =>
    cases outcome with
    | reserved => rfl
    | duplicate nonzero | added nonzero => exact absurd zero nonzero
  | duplicate seen =>
    cases outcome with
    | reserved zero => exact absurd zero (seen_ne_zero seen)
    | duplicate => rfl
    | added nonzero free => exact absurd seen (holds.registered?_eq_none_iff.mp free)

end Holds

theorem ofRegistrations_append (earlier later : List (UInt8 × Device)) :
    ofRegistrations (earlier ++ later) = ofRegistrations earlier >>=
      later.foldlM fun switch (major, device) => switch.register major device :=
  List.foldlM_append

theorem ofRegistrations_append_cons (built : ofRegistrations earlier = .ok switch) :
    ofRegistrations (earlier ++ (major, device) :: later) = switch.register major device >>=
      later.foldlM fun switch (major, device) => switch.register major device := by
  rw [ofRegistrations_append, built]
  rfl

/-- Registering goes on to the end, or up to the first offence. -/
theorem ofRegistrations_holds_or_offends (registrations : List (UInt8 × Device)) :
    (∃ switch, ofRegistrations registrations = .ok switch ∧ Holds registrations switch) ∨
    ∃ fault, ofRegistrations registrations = .error fault ∧
      ∃ earlier major device later,
        FirstOffence registrations earlier major device later fault := by
  -- The last registration meets the switch of all those in front of it.
  induction registrations using List.reverseRecOn with
  | nil => exact .inl ⟨bare, rfl, .bare⟩
  | append_singleton earlier last inductionHypothesis =>
    obtain ⟨major, device⟩ := last
    rcases inductionHypothesis with ⟨switch, built, holds⟩ | ⟨fault, failed, offence⟩
    · rw [ofRegistrations_append_cons built]
      rcases holds.register major device with ⟨next, added, nextHolds⟩ | ⟨fault, failed, offends⟩
      · exact .inl ⟨next, by rw [added]; rfl, nextHolds⟩
      · exact .inr ⟨fault, by rw [failed]; rfl, earlier, major, device, [], rfl, holds.sound,
          offends⟩
    · obtain ⟨first, other, found, later, place, sound, offends⟩ := offence
      refine .inr ⟨fault, ?_, first, other, found, later ++ [(major, device)], ?_, sound, offends⟩
      · rw [ofRegistrations_append, failed]
        rfl
      · rw [place, List.append_assoc, List.cons_append]

namespace FirstOffence

theorem not_sound (offence : FirstOffence registrations earlier major device later fault) :
    ¬ Sound registrations := by
  intro sound
  have upTo : (earlier ++ [(major, device)]).Sublist registrations := by
    rw [offence.place, List.append_cons earlier (major, device) later]
    exact List.sublist_append_left ..
  obtain ⟨-, nonzero, unseen⟩ := sound_concat_iff.mp (sound.of_sublist upTo)
  cases offence.offends with
  | reserved zero => exact nonzero zero
  | duplicate seen => exact unseen seen

theorem ofRegistrations_eq
    (offence : FirstOffence registrations earlier major device later fault) :
    ofRegistrations registrations = .error fault := by
  rcases ofRegistrations_holds_or_offends earlier with ⟨switch, built, holds⟩ | failed
  · rw [offence.place, ofRegistrations_append_cons built,
      holds.register_of_offends offence.offends]
    rfl
  · obtain ⟨_, -, _, _, _, _, earlierOffence⟩ := failed
    exact absurd offence.sound earlierOffence.not_sound

end FirstOffence

theorem ofRegistrations_eq_error_iff : ofRegistrations registrations = .error fault ↔
    ∃ earlier major device later,
      FirstOffence registrations earlier major device later fault := by
  constructor
  · intro failed
    rcases ofRegistrations_holds_or_offends registrations with ⟨_, built, -⟩ | ⟨_, same, offence⟩
    · rw [built] at failed
      cases failed
    · rw [failed] at same
      cases same
      exact offence
  · rintro ⟨earlier, major, device, later, offence⟩
    exact offence.ofRegistrations_eq

theorem holds_of_ofRegistrations (built : ofRegistrations registrations = .ok switch) :
    Holds registrations switch := by
  rcases ofRegistrations_holds_or_offends registrations with ⟨_, same, holds⟩ | ⟨_, failed, -⟩
  · rw [built] at same
    cases same
    exact holds
  · rw [built] at failed
    cases failed

theorem exists_of_sound (sound : Sound registrations) :
    ∃ switch, ofRegistrations registrations = .ok switch ∧ Holds registrations switch := by
  rcases ofRegistrations_holds_or_offends registrations with built | failed
  · exact built
  · obtain ⟨_, -, _, _, _, _, offence⟩ := failed
    exact absurd sound offence.not_sound

/-! ### The map -/

namespace Holds

theorem resolve_of_mem (holds : Holds registrations switch)
    (member : (major, device) ∈ registrations) : switch.resolve major = device := by
  rw [resolve, (holds.registered major device).mpr member]
  rfl

theorem resolve_of_not_mem (holds : Holds registrations switch)
    (missing : major ∉ registrations.map Prod.fst) : switch.resolve major = .error := by
  rw [resolve, holds.registered?_eq_none_iff.mpr missing]
  rfl

theorem resolve_eq_of_perm {reordered : List (UInt8 × Device)} {other : DeviceSwitch}
    (holds : Holds registrations switch) (otherHolds : Holds reordered other)
    (same : reordered.Perm registrations) (major : UInt8) :
    other.resolve major = switch.resolve major := by
  have registered : other.registered? major = switch.registered? major := by
    ext device
    rw [holds.registered, otherHolds.registered, same.mem_iff]
  rw [resolve, resolve, registered]

end Holds

/-- A switch can be built from registrations exactly if no major number is zero and none is there
twice; else the fault is that of the first registration that fails behind those in front of it. The
switch finds the device registered for a major number, and the error device for every number that
has none. It has a slot for each number up to the highest that has a device. Registered in
another order, the devices are found under the same numbers. -/
theorem ofRegistrations_is_partial_map (registrations : List (UInt8 × Device)) :
    ((∃ switch, ofRegistrations registrations = .ok switch) ↔ Sound registrations) ∧
    (∀ fault, ofRegistrations registrations = .error fault ↔
      ∃ earlier major device later,
        FirstOffence registrations earlier major device later fault) ∧
    ∀ switch, ofRegistrations registrations = .ok switch →
      (∀ major device, (major, device) ∈ registrations → switch.resolve major = device) ∧
      (∀ major ∉ registrations.map Prod.fst, switch.resolve major = .error) ∧
      switch.size = 1 + highest registrations ∧
      ∀ reordered : List (UInt8 × Device), reordered.Perm registrations →
        ∃ other, ofRegistrations reordered = .ok other ∧
          ∀ major, other.resolve major = switch.resolve major := by
  refine ⟨⟨?_, fun sound => ?_⟩, fun fault => ofRegistrations_eq_error_iff, ?_⟩
  · rintro ⟨switch, built⟩
    exact (holds_of_ofRegistrations built).sound
  · obtain ⟨switch, built, -⟩ := exists_of_sound sound
    exact ⟨switch, built⟩
  · intro switch built
    have holds := holds_of_ofRegistrations built
    refine ⟨fun _ _ => holds.resolve_of_mem, fun _ => holds.resolve_of_not_mem, holds.size_eq,
      fun reordered same => ?_⟩
    obtain ⟨other, otherBuilt, otherHolds⟩ := exists_of_sound (holds.sound.perm same)
    exact ⟨other, otherBuilt, holds.resolve_eq_of_perm otherHolds same⟩

/-- Devices with a gap below and between them, the higher one first; then the other one first; and
a fault that hides a later one. -/
theorem ofRegistrations_is_partial_map_with_gaps :
    (∃ switch, ofRegistrations [(3, .null), (1, .memory)] = .ok switch ∧ switch.resolve 3 = .null ∧
      switch.resolve 2 = .error ∧ switch.size = 4) ∧
    (∃ switch, ofRegistrations [(1, .memory), (3, .null)] = .ok switch ∧
      switch.resolve 3 = .null) ∧
    ofRegistrations [(3, .null), (3, .memory), (0, .null)] = .error (.duplicate 3) := by
  obtain ⟨ok, -, map⟩ := ofRegistrations_is_partial_map [(3, .null), (1, .memory)]
  obtain ⟨switch, built⟩ := ok.mpr ⟨by decide, by decide⟩
  obtain ⟨found, error, size, perm⟩ := map switch built
  obtain ⟨other, otherBuilt, same⟩ := perm [(1, .memory), (3, .null)] (List.Perm.swap ..)
  obtain ⟨-, fails, -⟩ := ofRegistrations_is_partial_map [(3, .null), (3, .memory), (0, .null)]
  have three : switch.resolve 3 = .null := found 3 .null (by decide)
  refine ⟨⟨switch, built, three, error 2 (by decide), size⟩,
    ⟨other, otherBuilt, (same 3).trans three⟩, ?_⟩
  exact (fails _).mpr ⟨[(3, .null)], 3, .memory, [(0, .null)], rfl, ⟨by decide, by decide⟩,
    .duplicate (by decide)⟩

end SixthEdition.DeviceSwitch
