import VirtualTape.Verif.FreeSpace

/-!
# Units in use

A unit that was handed out is in use until one of its sectors is given back. Its bit stays set for
as long, on disk and in memory, whichever pages cannot be read or written in between. So units in
use never have a sector in common and leave the first units of a disk alone.
-/

namespace VirtualTape

/-- A sector lies in a unit. -/
def UnitRef.holds (ref : UnitRef) (bid block : Nat) : Bool :=
  ref.bid = bid && ref.bStart ≤ block && block < ref.bEnd

/-- A sector lies in a unit of a disk if and only if it is the unit that is given back with it. -/
theorem BintDev.holds_unitRef (dev : BintDev) (unit bid block : Nat) :
    (dev.unitRef unit).holds bid block = true ↔ dev.bid = bid ∧ dev.unitOf block = unit := by
  have small := dev.shift_le
  have positive : 0 < 2 ^ (26 - dev.sectorShift) := Nat.two_pow_pos _
  have isUnit : dev.unitOf block = block / 2 ^ (26 - dev.sectorShift) := by
    have split : (2 : Nat) ^ 26 = 2 ^ (26 - dev.sectorShift) * 2 ^ dev.sectorShift := by
      rw [← Nat.pow_add, Nat.sub_add_cancel (by omega)]
    rw [unitOf, Nat.shiftLeft_eq, Nat.shiftRight_eq_div_pow, bintUnitShift, split,
      Nat.mul_div_mul_right _ _ (Nat.two_pow_pos _)]
  simp only [UnitRef.holds, Bool.and_eq_true, decide_eq_true_eq, and_assoc]
  refine and_congr_right fun _ => ?_
  rw [unitRef, dev.shift_units, dev.unitBlocks_eq, isUnit, Nat.div_eq_iff positive]
  dsimp only
  omega

namespace BdevPool

variable {pool pool' : BdevPool} {b b' : Bint} {units : List UnitRef} {bid : Nat}

/-- One call, with the units in use before and after it. -/
def UseStep (before : BdevPool × List UnitRef) (event : PoolEvent)
    (after : BdevPool × List UnitRef) : Prop :=
  before.1.Step event after.1 ∧ after.2 =
    match event with
    | .getBlock faults => (before.1.getBlock faults).1.toList ++ before.2
    | .releaseBlock _ _ bid block => before.2.filter fun ref => !ref.holds bid block
    | .unmapEnd _ _ _ => before.2

/-- No two units have a sector in common. -/
def Apart (units : List UnitRef) : Prop :=
  units.Pairwise fun ref other => ∀ bid block,
    ¬(ref.holds bid block = true ∧ other.holds bid block = true)

/-- The unit lies on its disk behind the first units, and its bit is set. -/
def Taken (pool : BdevPool) (ref : UnitRef) : Prop :=
  (∃ b ∈ pool.bints, b.dev.bid = ref.bid) ∧ ∀ b ∈ pool.bints, b.dev.bid = ref.bid →
    ∃ unit, ref = b.dev.unitRef unit ∧ bintReservedSegments ≤ unit ∧ unit < b.dev.units ∧
      b.bit unit = true

/-- The units in use are apart and taken. -/
structure Owned (units : List UnitRef) (pool : BdevPool) : Prop where
  /-- Pages in memory are copies. -/
  synced : ∀ b ∈ pool.bints, b.Synced
  /-- Units have no sector in common. -/
  apart : Apart units
  /-- Their bits are set. -/
  taken : ∀ ref ∈ units, pool.Taken ref

/-- A disk changed, and the units that stay in use keep their bits. -/
theorem Owned.put {left : List UnitRef} (owned : Owned units pool) (mem : b ∈ pool.bints)
    (same : b'.dev = b.dev) (synced : b'.Synced) (sub : left.Sublist units)
    (keeps : ∀ unit, b.dev.unitRef unit ∈ left → b.bit unit = true → b'.bit unit = true) :
    Owned left (pool.put b') where
  synced := forall_put owned.synced synced
  apart := owned.apart.sublist sub
  taken ref isRef := by
    obtain ⟨⟨disk, isDisk, isBid⟩, taken⟩ := owned.taken ref (sub.subset isRef)
    constructor
    · refine ⟨_, List.mem_map_of_mem isDisk, ?_⟩
      split
      · rename_i isBid'
        exact isBid'.symm.trans isBid
      · exact isBid
    · refine forall_put (fun other isOther => taken other isOther) fun here => ?_
      obtain ⟨unit, rfl, low, high, set⟩ := taken b mem (same ▸ here)
      exact ⟨unit, by rw [same], low, by rwa [same], keeps unit isRef set⟩

/-- Handing out a unit puts it into use. -/
theorem Owned.getBlock (owned : Owned units pool) (faults : IndexFaults) :
    Owned ((pool.getBlock faults).1.toList ++ units) (pool.getBlock faults).2 := by
  unfold BdevPool.getBlock
  generalize bintGetEligible pool.group = result
  obtain ⟨turn, group⟩ := result
  have owned : Owned units { pool with allocList := group.allocList, eligible := group.eligible } :=
    ⟨owned.synced, owned.apart, owned.taken⟩
  dsimp only
  generalize BdevPool.mk pool.bints group.allocList group.eligible = pool at owned ⊢
  cases isDisk : turn.bind pool.find with
  | none => exact owned
  | some b =>
    obtain ⟨bid, -, found⟩ := Option.bind_eq_some_iff.1 isDisk
    obtain ⟨mem, isBid⟩ := mem_of_find found
    dsimp only
    rcases (owned.synced b mem).getAnyBlock Prod.mk.eta.symm with ⟨none, kept⟩ | ⟨unit, some, took⟩
    · rw [none]
      refine owned.put mem kept.dev kept.synced (.refl _) fun _ _ set => ?_
      rwa [kept.bit_eq]
    · rw [some]
      have before : Owned units (pool.put (bintGetAnyBlock faults b).2) := by
        refine owned.put mem took.changed.dev took.changed.synced (.refl _) fun other _ set => ?_
        rw [took.changed.bit]
        split
        · rfl
        · exact set
      refine ⟨before.synced, List.pairwise_cons.2 ⟨fun ref isRef => ?_, before.apart⟩,
        List.forall_mem_cons.2 ⟨?_, before.taken⟩⟩
      · -- the bit of a unit in use is set, so it is not the one that was clear
        rintro other block ⟨here, there⟩
        obtain ⟨sameBid, isUnit⟩ := (b.dev.holds_unitRef _ _ _).1 here
        have isBid : b.dev.bid = ref.bid := by
          simp only [UnitRef.holds, Bool.and_eq_true, decide_eq_true_eq] at there
          exact sameBid.trans there.1.1.symm
        obtain ⟨used, rfl, -, -, set⟩ := (owned.taken ref isRef).2 b mem isBid
        rw [← ((b.dev.holds_unitRef _ _ _).1 there).2, isUnit, took.clear] at set
        cases set
      · have dev := took.changed.dev
        refine ⟨⟨_, mem_put found (by rw [dev, isBid]), by rw [dev]; rfl⟩, fun disk isDisk => ?_⟩
        obtain ⟨old, -, rfl⟩ := List.mem_map.1 isDisk
        split
        · refine fun _ => ⟨unit, by rw [dev], took.low, by rw [dev]; exact took.high, ?_⟩
          rw [took.changed.bit, if_pos rfl]
        · rename_i other
          exact fun same => absurd (same.trans (by rw [dev]; rfl)) other

/-- A call keeps the units in use apart. -/
theorem Owned.step {event : PoolEvent} {left : List UnitRef} (owned : Owned units pool)
    (step : UseStep (pool, units) event (pool', left)) : Owned left pool' := by
  obtain ⟨step, rfl⟩ := step
  cases event with
  | getBlock faults =>
    obtain rfl : pool' = _ := step
    exact owned.getBlock faults
  | releaseBlock faults unmapFails bid block =>
    obtain ⟨inside, rfl⟩ := step
    unfold BdevPool.releaseBlock
    cases found : pool.find bid with
    | none =>
      exact ⟨owned.synced, owned.apart.sublist List.filter_sublist,
        fun ref mem => owned.taken ref (List.mem_of_mem_filter mem)⟩
    | some b =>
      obtain ⟨mem, isBid⟩ := mem_of_find found
      have spec := (owned.synced b mem).releaseBlock faults unmapFails (inside b found)
      have kept : (bintReleaseBlock faults unmapFails b block).Synced ∧
          ∀ unit, b.dev.unitOf block ≠ unit → b.bit unit = true →
            (bintReleaseBlock faults unmapFails b block).bit unit = true := by
        split at spec
        · split at spec
          · exact ⟨spec.synced, fun unit _ set => by rwa [Bint.bit, spec.pages]⟩
          · refine ⟨spec.changed.synced, fun unit other set => ?_⟩
            rwa [spec.changed.bit, if_neg (Ne.symm other)]
        · exact ⟨spec.synced, fun unit _ set => by rwa [spec.bit_eq]⟩
      have after := owned.put mem ((owned.synced b mem).releaseBlock_dev _ _ (inside b found))
        kept.1 (@List.filter_sublist _ (fun ref : UnitRef => !ref.holds bid block) units)
        fun unit isLeft set => kept.2 unit (fun isUnit => ?_) set
      · exact ⟨after.synced, after.apart, after.taken⟩
      · have holds := (b.dev.holds_unitRef unit bid block).2 ⟨isBid, isUnit⟩
        simpa [holds] using (List.mem_filter.1 isLeft).2
  | unmapEnd bid indexId place =>
    obtain rfl := step
    cases found : pool.find bid with
    | none => exact owned
    | some b =>
      have synced := owned.synced b (mem_of_find found).1
      refine owned.put (mem_of_find found).1 rfl ⟨fun index isIndex => ?_, synced.valid⟩ (.refl _)
        fun _ _ set => set
      obtain ⟨old, isOld, rfl⟩ := List.mem_map.1 isIndex
      split <;> exact synced.cached old isOld

/-- After every sequence of calls on new disks, whatever page cannot be read or written, the units
that were handed out and not given back have no sector in common, lie on their disks behind the
first units, and have their bits set. -/
theorem unitsInUse_apart {events : List PoolEvent} (new : pool.New)
    (run : Run UseStep (pool, []) events (pool', units)) :
    Apart units ∧ ∀ ref ∈ units, pool'.Taken ref := by
  have start : Owned [] pool :=
    ⟨fun b mem => (new.counted b mem).synced, List.Pairwise.nil, fun _ mem => nomatch mem⟩
  have owned : Owned units pool' :=
    @Run.invariant _ _ _ _ _ _ (fun state => Owned state.2 state.1) run start
      fun owned step => owned.step step
  exact ⟨owned.apart, owned.taken⟩

/-- Two units of a new disk that are handed out one after the other are in use and apart. -/
theorem unitsInUse_apart_two :
    Apart [sampleDev.unitRef 5, sampleDev.unitRef 4] ∧
      ∀ ref ∈ [sampleDev.unitRef 5, sampleDev.unitRef 4],
        (samplePoolTaken.getBlock .none).2.Taken ref := by
  have first : UseStep (samplePool, []) (.getBlock .none)
      (samplePoolTaken, [sampleDev.unitRef 4]) := by
    have taken : [sampleDev.unitRef 4] = (samplePool.getBlock .none).1.toList ++ [] := by
      decide +kernel
    dsimp only [UseStep, Step, samplePoolTaken]
    exact ⟨rfl, taken⟩
  have second : UseStep (samplePoolTaken, [sampleDev.unitRef 4]) (.getBlock .none)
      ((samplePoolTaken.getBlock .none).2, [sampleDev.unitRef 5, sampleDev.unitRef 4]) := by
    have taken : [sampleDev.unitRef 5, sampleDev.unitRef 4] =
        (samplePoolTaken.getBlock .none).1.toList ++ [sampleDev.unitRef 4] := by
      decide +kernel
    dsimp only [UseStep, Step]
    exact ⟨rfl, taken⟩
  exact unitsInUse_apart samplePool_new (.snoc (.snoc .nil first) second)

end BdevPool

end VirtualTape
