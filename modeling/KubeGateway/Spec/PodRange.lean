import KubeGateway.Native.LoadEPF

/-!
# The pod range in the kernel

`cg_connect4` masks the destination and compares it with the network address that
was configured, which it does not mask.  So it recognises the range exactly when
the configured address has no bits outside its prefix; with such bits no
destination passes.  For a prefix of no bits the shift is by the width of its
operand.
-/

namespace KubeGateway.Gateway

open Ebpf

/-! ## Ranges -/

/-- The address agrees with the network on the bits of the prefix. -/
def Cidr.Contains (r : Cidr) (addr : BitVec 32) : Prop :=
  ∀ i < r.bits, addr.getMsbD i = r.network.getMsbD i

instance (r : Cidr) (addr : BitVec 32) : Decidable (r.Contains addr) :=
  inferInstanceAs (Decidable (∀ i < r.bits, _))

/-- No bit of the network is set behind the prefix. -/
def Cidr.Canonical (r : Cidr) : Prop :=
  ∀ i < 32, r.bits ≤ i → r.network.getMsbD i = false

instance (r : Cidr) : Decidable r.Canonical :=
  inferInstanceAs (Decidable (∀ i < 32, r.bits ≤ i → _))

/-! ## The mask -/

/-- The mask has ones where the prefix is. -/
theorem getMsbD_podMask {conf : Ebpf.Config} {n : Nat} (hn : n ≤ 32)
    (hconf : conf.podPrefixLength.toNat = n) {i : Nat} (hi : i < 32) :
    (podMask conf).getMsbD i = decide (i < n) := by
  have hamount : (32 - conf.podPrefixLength.setWidth 32 : BitVec 32).toNat % 64 = 32 - n := by
    simp only [BitVec.toNat_sub, BitVec.toNat_setWidth, hconf]
    simp
    omega
  have hones : (-1 : BitVec 64) = BitVec.allOnes 64 := rfl
  unfold podMask
  dsimp only
  rw [hamount, hones, BitVec.getMsbD_eq_getLsbD, BitVec.getLsbD_setWidth, BitVec.getLsbD_shiftLeft,
    BitVec.getLsbD_allOnes]
  have h₁ : 32 - 1 - i < 32 := by omega
  have h₂ : 32 - 1 - i < 64 := by omega
  have h₃ : 32 - 1 - i - (32 - n) < 64 := by omega
  simp only [hi, h₁, h₂, h₃, decide_true, Bool.true_and, Bool.and_true]
  -- the bit lies above the shift exactly if it belongs to the prefix
  by_cases hlt : i < n
  · have : ¬ (32 - 1 - i < 32 - n) := by omega
    simp [hlt, this]
  · have : 32 - 1 - i < 32 - n := by omega
    simp [hlt, this]

/-- Masking gives the network exactly for the range's addresses, if the network has
    no other bits. -/
theorem passesRange_iff {o : ByteOrder} {conf : Ebpf.Config} {r : Cidr}
    (hbits : conf.podPrefixLength.toNat = r.bits) (hnetwork : conf.podCidr = r.network)
    (dst : BitVec 32) :
    PassesRange o conf (bpfHtonl o dst) ↔ r.Contains dst ∧ r.Canonical := by
  unfold PassesRange
  rw [bpfHtonl_bpfHtonl, hnetwork]
  have hmask := fun i (hi : i < 32) => getMsbD_podMask r.bits_le hbits hi
  constructor
  · intro heq
    have hbit : ∀ i < 32, (dst.getMsbD i && decide (i < r.bits)) = r.network.getMsbD i := by
      intro i hi
      rw [← heq, BitVec.getMsbD_and, hmask i hi]
    refine ⟨fun i hi => ?_, fun i hi hle => ?_⟩
    · have := hbit i (Nat.lt_of_lt_of_le hi r.bits_le)
      simpa [hi] using this
    · have := hbit i hi
      rw [decide_eq_false (by omega), Bool.and_false] at this
      exact this.symm
  · rintro ⟨hcontains, hcanonical⟩
    apply BitVec.eq_of_getMsbD_eq
    intro i hi
    rw [BitVec.getMsbD_and, hmask i hi]
    by_cases hlt : i < r.bits
    · simp [hlt, hcontains i hlt]
    · simp [hlt, hcanonical i hi (by omega)]

/-- For every range a user can write and every destination: with the configuration
    that is loaded, `cg_connect4` recognises the destination as the range does, and
    shifts by an amount in 0..31, if and only if the prefix has a bit and the
    network no other bits, or the destination is outside anyway. -/
theorem podRange_exact_iff {env : LoadEnv} {c : Config} {pids : List (BitVec 32)} {m : Maps}
    {r : Cidr} (hcidr : c.podCIDR = r.text) (hload : LoadEPF env c pids = .loaded m)
    (dst : BitVec 32) :
    ((PassesRange .little m.mapConfig (bpfHtonl .little dst) ↔ r.Contains dst) ∧
        0 ≤ podShift m.mapConfig ∧ podShift m.mapConfig ≤ 31) ↔
      1 ≤ r.bits ∧ (r.Canonical ∨ ¬ r.Contains dst) := by
  obtain ⟨hbits, hnetwork⟩ := LoadEPF_range hcidr hload
  have hle := r.bits_le
  have hshift : 0 ≤ podShift m.mapConfig ∧ podShift m.mapConfig ≤ 31 ↔ 1 ≤ r.bits := by
    unfold podShift
    rw [hbits]
    omega
  rw [passesRange_iff hbits hnetwork, hshift]
  -- what is left is the difference between the two tests
  constructor
  · rintro ⟨hsame, hpos⟩
    refine ⟨hpos, ?_⟩
    by_cases hcontains : r.Contains dst
    · exact Or.inl (hsame.mpr hcontains).2
    · exact Or.inr hcontains
  · rintro ⟨hpos, hcanonical | houtside⟩
    · exact ⟨⟨And.left, fun h => ⟨h, hcanonical⟩⟩, hpos⟩
    · exact ⟨⟨And.left, fun h => absurd h houtside⟩, hpos⟩

/-! ## A range with host bits -/

/-- 10.244.1.5/16 -/
def hostRange : Cidr := { podRange with network := 0x0af40105#32 }

private theorem updatePids_nil : updatePids .empty [] = some .empty := rfl

/-- The default range, for an address in it. -/
theorem podRange_exact_default :
    ∃ m, LoadEPF (sidecarEnv 1) (sidecarConfig podRange) [] = .loaded m ∧
      (((PassesRange .little m.mapConfig (bpfHtonl .little 0x0af40105#32) ↔
          podRange.Contains 0x0af40105#32) ∧
        0 ≤ podShift m.mapConfig ∧ podShift m.mapConfig ≤ 31) ↔
      1 ≤ podRange.bits ∧ (podRange.Canonical ∨ ¬ podRange.Contains 0x0af40105#32)) := by
  have hload := LoadEPF_sidecar 1 podRange updatePids_nil
  exact ⟨_, hload, podRange_exact_iff rfl hload _⟩

/-- An address of the range that was configured does not pass: the configured
    network is an address in it, too. -/
theorem not_podRange_exact :
    ¬ ∀ (env : LoadEnv) (c : Config) (pids : List (BitVec 32)) (m : Maps) (r : Cidr)
      (dst : BitVec 32), c.podCIDR = r.text → LoadEPF env c pids = .loaded m →
      (PassesRange .little m.mapConfig (bpfHtonl .little dst) ↔ r.Contains dst) ∧
        0 ≤ podShift m.mapConfig ∧ podShift m.mapConfig ≤ 31 := by
  intro h
  have hbad := h _ _ [] _ hostRange 0x0af40105#32 rfl (LoadEPF_sidecar 1 hostRange updatePids_nil)
  exact absurd (hbad.1.mpr (by decide)) (by decide)

end KubeGateway.Gateway
