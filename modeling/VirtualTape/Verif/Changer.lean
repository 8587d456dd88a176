import Mathlib.Data.List.Nodup
import Mathlib.Tactic.SplitIfs
import VirtualTape.Core.Changer
import VirtualTape.Lib.Inventory

/-!
# What the operations of a changer do

Every operation is described by what it does to three parts of a library: what each element holds,
the full flags, and the rest. What the elements hold is an inventory, and the operations are its
puts and takes.
-/

namespace VirtualTape

open Inventory

variable {n : ℕ} {layout : Layout n} {env : ChangerEnv n} {lib lib' : Library n} {i j : Fin n}
  {h k : ℕ}

namespace Library

/-- What each element holds. -/
def tapes (lib : Library n) (i : Fin n) : Option ℕ := (lib.element i).tape

/-- The full flag of each element. -/
def fulls (lib : Library n) (i : Fin n) : Bool := (lib.element i).full

/-- Everything that is not in the elements. -/
def store (lib : Library n) : List ℕ × (ℕ → Option Tape) × ℕ :=
  (lib.exportList, lib.tape, lib.nextTape)

/-- What an element holds. -/
@[simp]
theorem element_tape : (lib.element i).tape = lib.tapes i := rfl

/-- The flag of an element. -/
@[simp]
theorem element_full : (lib.element i).full = lib.fulls i := rfl

/-- An update of an element changes what it holds. -/
@[simp]
theorem tapes_update {f : Element → Element} :
    (lib.update i f).tapes = Function.update lib.tapes i (f (lib.element i)).tape :=
  Function.comp_update Element.tape lib.element i _

/-- An update of an element changes its flag. -/
@[simp]
theorem fulls_update {f : Element → Element} :
    (lib.update i f).fulls = Function.update lib.fulls i (f (lib.element i)).full :=
  Function.comp_update Element.full lib.element i _

/-- An update of an element changes nothing else. -/
@[simp]
theorem store_update {f : Element → Element} : (lib.update i f).store = lib.store := rfl

end Library

/-! ## Elements -/

/-- An element found under an address other than zero is not the transport. -/
theorem mchangerGetElement_type {address : ℕ} (found : mchangerGetElement layout address = some i)
    (nonzero : address ≠ 0) : layout.type i ≠ .mediumTransport := by
  intro isTransport
  have here : layout.address i = address := by
    simpa using List.find?_some found
  exact nonzero (here ▸ layout.transport i isTransport)

/-- A drive, a slot or a port has what it holds. -/
theorem elementVcartridge_eq (type : layout.type i ≠ .mediumTransport) :
    elementVcartridge layout lib i = lib.tapes i := by
  simp [elementVcartridge, type]

/-- A cartridge that is found in an element is there. -/
theorem elementVcartridge_some (found : elementVcartridge layout lib i = some h) :
    lib.tapes i = some h := by
  by_cases type : layout.type i = .mediumTransport
  · simp [elementVcartridge, type] at found
  · rw [← elementVcartridge_eq type]
    exact found

/-- Nothing prevents an unload, and nothing fails. -/
structure ChangerEnv.Calm (env : ChangerEnv n) : Prop where
  /-- No initiator prevents removal. -/
  prevents : ∀ i, env.prevents i = false
  /-- Every unload succeeds. -/
  unloads : ∀ i, env.unloadFails i = false
  /-- Every write succeeds. -/
  writes : ∀ h, env.writeFails h = false

/-- In calm circumstances a tape is unloaded. -/
theorem tdriveUnloadTape_calm (calm : env.Calm) : (tdriveUnloadTape env lib i).1 = true := by
  unfold tdriveUnloadTape
  simp only [calm.prevents, calm.unloads, Bool.false_eq_true, if_false]
  split_ifs <;> rfl

/-- An unload that succeeds leaves the drive empty. -/
theorem tdriveUnloadTape_tapes (done : (tdriveUnloadTape env lib i).1 = true) :
    (tdriveUnloadTape env lib i).2.tapes = take lib.tapes i := by
  unfold tdriveUnloadTape at done ⊢
  split_ifs with empty
  · have same : lib.tapes i = none := empty
    rw [take, ← same, Function.update_eq_self]
  all_goals simp_all [take]

/-- An unload that fails changes nothing. -/
theorem tdriveUnloadTape_failed (failed : (tdriveUnloadTape env lib i).1 = false) :
    (tdriveUnloadTape env lib i).2 = lib := by
  unfold tdriveUnloadTape at failed ⊢
  split_ifs <;> simp_all

/-- An unload does not change the flags. -/
@[simp]
theorem tdriveUnloadTape_fulls : (tdriveUnloadTape env lib i).2.fulls = lib.fulls := by
  unfold tdriveUnloadTape
  split_ifs <;> simp

/-- An unload concerns the drive only. -/
@[simp]
theorem tdriveUnloadTape_store : (tdriveUnloadTape env lib i).2.store = lib.store := by
  unfold tdriveUnloadTape
  split_ifs <;> rfl

/-- What an unload that succeeds does. -/
theorem tdriveUnloadTape_done {after : Library n}
    (done : tdriveUnloadTape env lib i = (true, after)) :
    after.tapes = take lib.tapes i ∧ after.fulls = lib.fulls ∧ after.store = lib.store := by
  have isAfter : after = (tdriveUnloadTape env lib i).2 := by rw [done]
  rw [isAfter]
  exact ⟨tdriveUnloadTape_tapes (by rw [done]), tdriveUnloadTape_fulls, tdriveUnloadTape_store⟩

/-- In calm circumstances an element is unloaded. -/
theorem unloadElement_calm (calm : env.Calm) : (unloadElement layout env lib i).1 = true := by
  unfold unloadElement
  split_ifs
  · exact tdriveUnloadTape_calm calm
  · rfl

/-- What the elements hold after an unload that succeeds. -/
theorem unloadElement_tapes (done : (unloadElement layout env lib i).1 = true) :
    (unloadElement layout env lib i).2.tapes =
      if layout.type i = .dataTransfer then take lib.tapes i else lib.tapes := by
  unfold unloadElement at done ⊢
  split_ifs with drive
  · rw [if_pos drive] at done
    exact tdriveUnloadTape_tapes done
  · rfl

/-- An unload that fails changes nothing. -/
theorem unloadElement_failed (failed : (unloadElement layout env lib i).1 = false) :
    (unloadElement layout env lib i).2 = lib := by
  unfold unloadElement at failed ⊢
  split_ifs with drive
  · rw [if_pos drive] at failed
    exact tdriveUnloadTape_failed failed
  · rfl

/-- An unload does not change the flags. -/
@[simp]
theorem unloadElement_fulls : (unloadElement layout env lib i).2.fulls = lib.fulls := by
  unfold unloadElement
  split_ifs <;> simp

/-- An unload concerns the element only. -/
@[simp]
theorem unloadElement_store : (unloadElement layout env lib i).2.store = lib.store := by
  unfold unloadElement
  split_ifs <;> simp

/-- What an unload that succeeds does. -/
theorem unloadElement_done {after : Library n}
    (done : unloadElement layout env lib i = (true, after)) :
    after.tapes = (if layout.type i = .dataTransfer then take lib.tapes i else lib.tapes) ∧
      after.fulls = lib.fulls ∧ after.store = lib.store := by
  have isAfter : after = (unloadElement layout env lib i).2 := by rw [done]
  rw [isAfter]
  exact ⟨unloadElement_tapes (by rw [done]), unloadElement_fulls, unloadElement_store⟩

/-- What the elements hold after a cartridge is loaded: a full drive refuses it. -/
theorem loadElement_tapes :
    (loadElement layout lib i h).tapes =
      if layout.type i = .dataTransfer ∧ lib.tapes i ≠ none then lib.tapes
      else put lib.tapes i h := by
  unfold loadElement tdriveLoadTape
  by_cases drive : layout.type i = .dataTransfer
  · by_cases empty : lib.tapes i = none
    · simp [drive, empty, put]
    · simp [drive, empty]
  · simp [drive, put]

/-- An empty element takes a cartridge. -/
theorem loadElement_tapes_empty (empty : lib.tapes i = none) :
    (loadElement layout lib i h).tapes = put lib.tapes i h := by
  simp [loadElement_tapes, empty]

/-- Loading does not change the flags. -/
@[simp]
theorem loadElement_fulls : (loadElement layout lib i h).fulls = lib.fulls := by
  unfold loadElement tdriveLoadTape
  split_ifs <;> simp

/-- Loading concerns the element only. -/
@[simp]
theorem loadElement_store : (loadElement layout lib i h).store = lib.store := by
  unfold loadElement tdriveLoadTape
  split_ifs <;> rfl

/-- What the elements hold after one is cleared. -/
theorem clearElement_tapes :
    (clearElement layout lib i).tapes =
      if layout.type i = .dataTransfer then lib.tapes else take lib.tapes i := by
  unfold clearElement
  split_ifs <;> simp [take]

/-- Clearing does not change the flags. -/
@[simp]
theorem clearElement_fulls : (clearElement layout lib i).fulls = lib.fulls := by
  unfold clearElement
  split_ifs <;> simp

/-- Clearing concerns the element only. -/
@[simp]
theorem clearElement_store : (clearElement layout lib i).store = lib.store := by
  unfold clearElement
  split_ifs <;> rfl

/-- The descriptor does not say what an element holds. -/
@[simp]
theorem updateSourceStorageAddress_tape {type : ElementType} {address : ℕ} {source e : Element} :
    (updateSourceStorageAddress type address source e).tape = e.tape := by
  unfold updateSourceStorageAddress
  split_ifs <;> rfl

/-- The flag is set at the destination. -/
@[simp]
theorem fillElement_fulls {source : Fin n} {e : Element} :
    (fillElement layout lib i source e).fulls = Function.update lib.fulls i true := by
  simp [fillElement]

/-- The descriptor does not say what an element holds. -/
@[simp]
theorem fillElement_tapes {source : Fin n} {e : Element} :
    (fillElement layout lib i source e).tapes = lib.tapes := by
  simp [fillElement]

/-- The descriptor concerns the element only. -/
@[simp]
theorem fillElement_store {source : Fin n} {e : Element} :
    (fillElement layout lib i source e).store = lib.store := rfl

/-- The flags move with the cartridge. -/
@[simp]
theorem mchangerMoveUpdate_fulls {destination source : Fin n} :
    (mchangerMoveUpdate layout lib destination source).fulls =
      Function.update (Function.update lib.fulls destination true) source false := by
  simp [mchangerMoveUpdate]

/-- The descriptors do not say what an element holds. -/
@[simp]
theorem mchangerMoveUpdate_tapes {destination source : Fin n} :
    (mchangerMoveUpdate layout lib destination source).tapes = lib.tapes := by
  simp [mchangerMoveUpdate]

/-- The descriptors concern the elements only. -/
@[simp]
theorem mchangerMoveUpdate_store {destination source : Fin n} :
    (mchangerMoveUpdate layout lib destination source).store = lib.store := rfl

/-! ## Moves -/

/-- A move that unloads its source does what a move of the inventory does. -/
theorem moveElements_done {source destination : Fin n}
    (done : (unloadElement layout env lib source).1 = true) (other : source ≠ destination)
    (empty : lib.tapes destination = none) :
    (moveElements layout env lib source destination h).2.tapes =
        Inventory.move lib.tapes source destination h ∧
      (moveElements layout env lib source destination h).2.fulls =
        Function.update (Function.update lib.fulls destination true) source false ∧
      (moveElements layout env lib source destination h).2.store = lib.store := by
  obtain ⟨unloaded, isUnloaded⟩ : ∃ unloaded, unloadElement layout env lib source = (true, unloaded) :=
    ⟨_, Prod.ext done rfl⟩
  obtain ⟨tapes, fulls, store⟩ := unloadElement_done isUnloaded
  have free : unloaded.tapes destination = none := by
    rw [tapes]
    split_ifs
    · rw [take_other other.symm, empty]
    · exact empty
  have loaded : (loadElement layout unloaded destination h).tapes = put unloaded.tapes destination h :=
    loadElement_tapes_empty free
  have moved : (clearElement layout (loadElement layout unloaded destination h) source).tapes =
      Inventory.move lib.tapes source destination h := by
    rw [clearElement_tapes, loaded, tapes]
    split_ifs
    · rfl
    · exact Function.update_comm other.symm _ _ _
  unfold moveElements
  simp only [isUnloaded]
  split_ifs <;> simp [moved, fulls, store]

/-- What the elements hold before the second destination is filled: the drives among the source and
the first destination are unloaded, the first destination takes the cartridge of the source, and a
source that is not a drive is emptied. -/
def exchanged (layout : Layout n) (tapes : Fin n → Option ℕ) (source firstDest : Fin n) (x : ℕ) :
    Fin n → Option ℕ :=
  let sourceOut := if layout.type source = .dataTransfer then take tapes source else tapes
  let bothOut := if layout.type firstDest = .dataTransfer then take sourceOut firstDest else sourceOut
  let filled := put bothOut firstDest x
  if layout.type source = .dataTransfer then filled else take filled source

/-- Both unloads of an exchange succeed. -/
def Unloads (layout : Layout n) (env : ChangerEnv n) (lib : Library n) (source firstDest : Fin n) :
    Prop :=
  (unloadElement layout env lib source).1 = true ∧
    (unloadElement layout env (unloadElement layout env lib source).2 firstDest).1 = true

/-- In calm circumstances they do. -/
theorem Unloads.of_calm (calm : env.Calm) {source firstDest : Fin n} :
    Unloads layout env lib source firstDest :=
  ⟨unloadElement_calm calm, unloadElement_calm calm⟩

/-- What an exchange that unloads its drives does. A full drive refuses a second cartridge. -/
theorem exchangeElements_done {source firstDest : Fin n}
    (done : Unloads layout env lib source firstDest) (secondDest : Fin n) (x y : ℕ) :
    (exchangeElements layout env lib source firstDest secondDest x y).2.tapes =
        (if layout.type secondDest = .dataTransfer ∧
            exchanged layout lib.tapes source firstDest x secondDest ≠ none then
          exchanged layout lib.tapes source firstDest x
        else put (exchanged layout lib.tapes source firstDest x) secondDest y) ∧
      (exchangeElements layout env lib source firstDest secondDest x y).2.fulls =
        Function.update (Function.update (Function.update lib.fulls firstDest true) source false)
          secondDest true ∧
      (exchangeElements layout env lib source firstDest secondDest x y).2.store = lib.store := by
  obtain ⟨one, isOne⟩ : ∃ one, unloadElement layout env lib source = (true, one) :=
    ⟨_, Prod.ext done.1 rfl⟩
  have secondDone : (unloadElement layout env one firstDest).1 = true := by
    simpa [isOne] using done.2
  obtain ⟨two, isTwo⟩ : ∃ two, unloadElement layout env one firstDest = (true, two) :=
    ⟨_, Prod.ext secondDone rfl⟩
  obtain ⟨tapesOne, fullsOne, storeOne⟩ := unloadElement_done isOne
  obtain ⟨tapesTwo, fullsTwo, storeTwo⟩ := unloadElement_done isTwo
  have filled : (loadElement layout two firstDest x).tapes = put two.tapes firstDest x := by
    rw [loadElement_tapes, if_neg]
    rintro ⟨drive, taken⟩
    rw [tapesTwo, if_pos drive, take_same] at taken
    exact taken rfl
  have cleared : (clearElement layout (loadElement layout two firstDest x) source).tapes =
      exchanged layout lib.tapes source firstDest x := by
    rw [clearElement_tapes, filled, tapesTwo, tapesOne]
    rfl
  unfold exchangeElements
  simp only [isOne, isTwo, mchangerExchangeUpdate]
  refine ⟨?_, ?_, ?_⟩
  · split_ifs with port refuses refuses <;>
      simp [loadElement_tapes, cleared, refuses]
  · split_ifs <;> simp [fullsTwo, fullsOne]
  · split_ifs <;> simp [storeTwo, storeOne]

variable {source firstDest secondDest : Fin n} {x y : ℕ} {tapes : Fin n → Option ℕ}

/-- With different elements, an exchange does what an exchange of the inventory does. -/
theorem exchanged_apart (apart : source ≠ firstDest) (other : secondDest ≠ firstDest) :
    put (exchanged layout tapes source firstDest x) secondDest y =
      Inventory.exchange tapes source firstDest secondDest x y := by
  unfold exchanged Inventory.exchange Inventory.move
  congr 1
  funext j
  by_cases isFirst : j = firstDest
  · subst isFirst
    split_ifs <;> simp [put_same, take_other apart.symm]
  · by_cases isSource : j = source
    · subst isSource
      split_ifs <;> simp [put_other isFirst, take_other isFirst]
    · split_ifs <;> simp [put_other isFirst, take_other isFirst, take_other isSource]

/-- The second destination is empty when its turn comes. -/
theorem exchanged_free (apart : source ≠ firstDest) (other : secondDest ≠ firstDest)
    (empty : take tapes source secondDest = none) :
    exchanged layout tapes source firstDest x secondDest = none := by
  unfold exchanged
  by_cases isSource : secondDest = source
  · subst isSource
    split_ifs <;> simp [put_other other, take_other other]
  · rw [take_other isSource] at empty
    split_ifs <;> simp [put_other other, take_other other, take_other isSource, empty]

/-- A source that is its own first destination keeps its cartridge if it is a drive, and is emptied
otherwise. -/
theorem exchanged_alias (here : tapes source = some x) :
    exchanged layout tapes source source x =
      if layout.type source = .dataTransfer then tapes else take tapes source := by
  have same : put tapes source x = tapes := by
    rw [put, ← here, Function.update_eq_self]
  unfold exchanged
  split_ifs
  · simpa [put, take] using same
  · simp [put, take]

end VirtualTape
