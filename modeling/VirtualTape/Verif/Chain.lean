import VirtualTape.Verif.Clean

/-!
# Moving along the chain

Looking for a lookup follows the chain and caches what it loads. On a clean partition every lookup
that is found this way is a copy of the one at that place of the chain, and the cached lookups
remain copies in chain order.
-/

namespace VirtualTape

variable {tally : Prop} {origin s s' s'' : State} {image : Image}
  {mlookup next : MapLookup} {link link' : Link}

/-! ## Links and their places in the chain -/

/-- A link is at its place in the chain. -/
theorem Image.links_ordinal (image : Image) {index : Nat} (found : image.links[index]? = some link) :
    link.ordinal = index := by
  rw [Image.links_getElem?, Option.map_eq_some_iff] at found
  obtain ⟨mlookup, -, rfl⟩ := found
  rfl

/-- A link splits the chain at its place. -/
structure LinkSplit (front : List Link) (link : Link) (back : List Link) : Prop where
  /-- The links in front are in front. -/
  before : ∀ other ∈ front, other.ordinal < link.ordinal
  /-- The links behind are behind. -/
  behind : ∀ other ∈ back, link.ordinal < other.ordinal
  /-- The link behind is the next one. -/
  next : ∀ other rest, back = other :: rest → other.ordinal = link.ordinal + 1
  /-- The link in front is the previous one. -/
  prev : ∀ other rest, front = rest ++ [other] → other.ordinal + 1 = link.ordinal

/-- A link splits the chain at its place. -/
theorem Image.links_split {before behind : List Link} (split : image.links = before ++ link :: behind) :
    LinkSplit before link behind := by
  have here : link.ordinal = before.length := by
    refine image.links_ordinal ?_
    rw [split, List.getElem?_append_right (le_refl _), Nat.sub_self]
    rfl
  refine ⟨?_, ?_, ?_, ?_⟩
  · intro other mem
    obtain ⟨index, found⟩ := List.getElem?_of_mem mem
    have inside := (List.getElem?_eq_some_iff.1 found).1
    have ordinal : other.ordinal = index := by
      refine image.links_ordinal ?_
      rw [split, List.getElem?_append_left inside, found]
    omega
  · intro other mem
    obtain ⟨index, found⟩ := List.getElem?_of_mem mem
    have ordinal : other.ordinal = before.length + 1 + index := by
      refine image.links_ordinal ?_
      rw [split, List.getElem?_append_right (by omega)]
      have offset : before.length + 1 + index - before.length = index + 1 := by omega
      rw [offset, List.getElem?_cons_succ, found]
    omega
  · rintro other rest rfl
    have ordinal : other.ordinal = before.length + 1 := by
      refine image.links_ordinal ?_
      rw [split, List.getElem?_append_right (by omega), Nat.add_sub_cancel_left]
      rfl
    omega
  · rintro other rest rfl
    have ordinal : other.ordinal = rest.length := by
      refine image.links_ordinal ?_
      rw [split, List.append_assoc, List.getElem?_append_right (le_refl _), Nat.sub_self]
      rfl
    rw [List.length_append, List.length_singleton] at here
    omega

/-- A link of the chain by its place. -/
theorem Image.exists_link {ordinal : Nat} {img : LookupImage} (found : image[ordinal]? = some img) :
    ∃ link ∈ image.links, link.ordinal = ordinal ∧ link.img = img := by
  have here : image.links[ordinal]? =
      some ⟨ordinal, (Image.maps (image.take ordinal)).length, img⟩ := by
    rw [Image.links_getElem?, found, Option.map_some]
  exact ⟨_, List.mem_of_getElem? here, rfl, rfl⟩

/-- Links at the same place are the same. -/
theorem Image.link_eq (mem : link ∈ image.links) (mem' : link' ∈ image.links)
    (same : link.ordinal = link'.ordinal) : link = link' := by
  obtain ⟨index, found⟩ := List.getElem?_of_mem mem
  obtain ⟨index', found'⟩ := List.getElem?_of_mem mem'
  obtain rfl : index = index' := by
    rw [← image.links_ordinal found, ← image.links_ordinal found', same]
  exact Option.some.inj (found.symm.trans found')

/-- Copies of different lookups have different addresses. -/
theorem LinkCopy.not_same {group : Bdevgroup} {disk : Disk}
    (readable : Readable group disk image) (copy : LinkCopy tally image mlookup link)
    (copy' : LinkCopy tally image next link') (mem : link ∈ image.links)
    (mem' : link' ∈ image.links) (ne : link.ordinal ≠ link'.ordinal) :
    mlookup.same next = false := by
  rw [Bool.eq_false_iff]
  intro same
  simp only [MapLookup.same, Bool.and_eq_true, beq_iff_eq] at same
  refine ne (readable.distinct (Image.getElem?_of_mem_links mem).1
    (Image.getElem?_of_mem_links mem').1 ?_ ?_)
  · rw [← copy.bid, ← copy'.bid]
    exact same.1
  · rw [← copy.bStart, ← copy'.bStart]
    exact same.2

/-! ## The cached lookups around one of them -/

/-- A lookup is the same as itself. -/
theorem MapLookup.same_refl (mlookup : MapLookup) : mlookup.same mlookup = true := by
  simp [MapLookup.same]

section Lists

variable {front back : List MapLookup} (apart : ∀ other ∈ front, other.same mlookup = false)

include apart

/-- The cached lookup behind one. -/
theorem mlookupGetNext_append :
    mlookupGetNext (front ++ mlookup :: back) mlookup = back.head? := by
  have skipped : (front ++ mlookup :: back).dropWhile (fun other => !other.same mlookup) =
      mlookup :: back := by
    induction front with
    | nil => simp [MapLookup.same_refl]
    | cons other rest ih =>
      rw [List.cons_append, List.dropWhile_cons_of_pos
        (by simp [apart other List.mem_cons_self])]
      exact ih fun x mem => apart x (List.mem_cons_of_mem _ mem)
  rw [mlookupGetNext, skipped, List.tail_cons]

/-- The cached lookup in front of one. -/
theorem mlookupGetPrev_append :
    mlookupGetPrev (front ++ mlookup :: back) mlookup = front.getLast? := by
  have taken : (front ++ mlookup :: back).takeWhile (fun other => !other.same mlookup) = front := by
    induction front with
    | nil => simp [MapLookup.same_refl]
    | cons other rest ih =>
      rw [List.cons_append, List.takeWhile_cons_of_pos
        (by simp [apart other List.mem_cons_self])]
      rw [ih fun x mem => apart x (List.mem_cons_of_mem _ mem)]
  rw [mlookupGetPrev, taken]

/-- Caching a lookup behind one. -/
theorem mapLookupInsertAfter_append (added : MapLookup) :
    mapLookupInsertAfter (front ++ mlookup :: back) mlookup added =
      front ++ mlookup :: added :: back := by
  induction front with
  | nil => simp [mapLookupInsertAfter, MapLookup.same_refl]
  | cons other rest ih =>
    simp only [List.cons_append, mapLookupInsertAfter, apart other List.mem_cons_self,
      Bool.false_eq_true, if_false]
    rw [ih fun x mem => apart x (List.mem_cons_of_mem _ mem)]

/-- Caching a lookup in front of one. -/
theorem mapLookupInsertBefore_append (added : MapLookup) :
    mapLookupInsertBefore (front ++ mlookup :: back) mlookup added =
      front ++ added :: mlookup :: back := by
  induction front with
  | nil => simp [mapLookupInsertBefore, MapLookup.same_refl]
  | cons other rest ih =>
    simp only [List.cons_append, mapLookupInsertBefore, apart other List.mem_cons_self,
      Bool.false_eq_true, if_false]
    rw [ih fun x mem => apart x (List.mem_cons_of_mem _ mem)]

end Lists

/-! ## Loading lookups -/

/-- Loading a page of the disk yields a lookup. -/
def State.Loads (s : State) (mlookup : MapLookup) : Prop :=
  ∃ bStart bid, mapLookupLoad s.group s.disk bStart bid = some mlookup

/-- Lookups were loaded and cached; nothing else changed. -/
structure Fetched (tally : Prop) (image : Image) (s s' : State) : Prop where
  /-- Only the cached lookups change. -/
  state : ∃ mlookups, s' = { s with part := { s.part with mlookups := mlookups } }
  /-- They are copies in chain order. -/
  lookups : LookupsClean tally image s'.part.mlookups
  /-- What was cached still is. -/
  kept : ∀ mlookup ∈ s.part.mlookups, mlookup ∈ s'.part.mlookups
  /-- What was not cached comes from the disk. -/
  loaded : ∀ mlookup ∈ s'.part.mlookups, mlookup ∈ s.part.mlookups ∨ s.Loads mlookup

namespace Fetched

/-- Nothing has to be loaded. -/
theorem refl (lookups : LookupsClean tally image s.part.mlookups) : Fetched tally image s s :=
  ⟨⟨s.part.mlookups, rfl⟩, lookups, fun _ mem => mem, fun _ mem => Or.inl mem⟩

/-- Loading twice is loading. -/
theorem trans (first : Fetched tally image s s') (second : Fetched tally image s' s'') :
    Fetched tally image s s'' := by
  obtain ⟨mlookups, rfl⟩ := first.state
  obtain ⟨mlookups', rfl⟩ := second.state
  refine ⟨⟨mlookups', rfl⟩, second.lookups, fun mlookup mem =>
    second.kept mlookup (first.kept mlookup mem), fun mlookup mem => ?_⟩
  rcases second.loaded mlookup mem with cached | loads
  · exact first.loaded mlookup cached
  · exact Or.inr loads

/-- Loading lookups is moving about. -/
theorem moved (fetched : Fetched tally image s s') : Moved s s' := by
  obtain ⟨mlookups, rfl⟩ := fetched.state
  exact ⟨rfl, rfl, ⟨_, _, _, _, rfl⟩, Or.inr rfl⟩

/-- The cached maps stay. -/
theorem cursor_eq (fetched : Fetched tally image s s') : s'.part.cursor = s.part.cursor := by
  obtain ⟨mlookups, rfl⟩ := fetched.state
  rfl

/-- A map whose lookup is cached keeps it. -/
theorem anchors (fetched : Fetched tally image s s') {map : BlkMap} (anchor : s.part.Anchors map) :
    s'.part.Anchors map := by
  obtain ⟨mlookup, cached, address⟩ := anchor
  exact ⟨mlookup, fetched.kept mlookup cached, address⟩

/-- Loading lookups keeps a partition clean. -/
theorem clean (fetched : Fetched tally image s s') (clean : Clean origin tally s image) :
    Clean origin tally s' image := by
  have same := fetched.cursor_eq
  refine clean.move fetched.moved fetched.lookups (same ▸ clean.cursor) fun map mem => ?_
  rw [same] at mem
  exact fetched.anchors (clean.anchored map mem)

end Fetched

/-- A cached lookup that is a copy of a lookup of the image. -/
structure CachedAt (tally : Prop) (image : Image) (s : State) (mlookup : MapLookup) (link : Link) :
    Prop where
  /-- It is cached. -/
  cached : mlookup ∈ s.part.mlookups
  /-- The lookup is in the chain. -/
  mem : link ∈ image.links
  /-- It is a copy. -/
  copy : LinkCopy tally image mlookup link

/-- A cached lookup stays cached. -/
theorem CachedAt.fetched (at_ : CachedAt tally image s mlookup link)
    (fetched : Fetched tally image s s') : CachedAt tally image s' mlookup link :=
  ⟨fetched.kept _ at_.cached, at_.mem, at_.copy⟩

/-- The address of a lookup of the chain identifies its copies. -/
theorem Readable.isAt_wordAt {group : Bdevgroup} {disk : Disk}
    (readable : Readable group disk image)
    (copy : LinkCopy tally image mlookup link) (mem : link ∈ image.links) {ordinal : Nat}
    {img : LookupImage} (found : image[ordinal]? = some img) :
    mlookup.isAt (image.wordAt ordinal) = true ↔ link.ordinal = ordinal := by
  obtain ⟨-, start, disk, -⟩ := readable.word_eq found
  have here := (Image.getElem?_of_mem_links mem).1
  simp only [MapLookup.isAt, Bool.and_eq_true, beq_iff_eq, start, disk, copy.bid, copy.bStart]
  constructor
  · rintro ⟨sameStart, sameBid⟩
    exact readable.distinct here found sameBid sameStart
  · rintro rfl
    rw [here] at found
    obtain rfl := Option.some.inj found
    exact ⟨rfl, rfl⟩

/-- The cached lookups and the chain, split at a cached lookup. -/
theorem Clean.split (clean : Clean origin tally s image) (at_ : CachedAt tally image s mlookup link) :
    ∃ front back before behind, s.part.mlookups = front ++ mlookup :: back ∧
      image.links = before ++ link :: behind ∧ LinkSplit before link behind ∧
      Cached (LinkCopy tally image) (fun link => 0 < link.ordinal) front before ∧
      Cached (LinkCopy tally image) (fun link => 0 < link.ordinal) back behind ∧
      ∀ other ∈ front, other.same mlookup = false := by
  obtain ⟨front, back, before, found, behind, cached, links, first, copy, second⟩ :=
    Cached.split clean.lookups at_.cached
  have foundMem : found ∈ image.links := by
    rw [links]
    exact List.mem_append_right _ List.mem_cons_self
  obtain rfl : found = link := by
    refine Image.link_eq foundMem at_.mem (clean.readable.distinct
      (Image.getElem?_of_mem_links foundMem).1 (Image.getElem?_of_mem_links at_.mem).1 ?_ ?_)
    · rw [← copy.bid, at_.copy.bid]
    · rw [← copy.bStart, at_.copy.bStart]
  have splits := Image.links_split links
  refine ⟨front, back, before, behind, cached, links, splits, first, second, ?_⟩
  intro other mem
  obtain ⟨link', inside, copy'⟩ := first.exists_of_mem mem
  have linkMem : link' ∈ image.links := by
    rw [links]
    exact List.mem_append_left _ inside
  exact copy'.not_same clean.readable at_.copy linkMem at_.mem (splits.before link' inside).ne

/-- The link behind a split, by its place. -/
theorem LinkSplit.behind_eq {before behind : List Link} (splits : LinkSplit before link behind)
    (links : image.links = before ++ link :: behind) {img : LookupImage}
    (found : image[link.ordinal + 1]? = some img) :
    ∃ link' rest, behind = link' :: rest ∧ link'.ordinal = link.ordinal + 1 ∧ link'.img = img ∧
      link' ∈ image.links := by
  obtain ⟨link', mem, ordinal, isImg⟩ := Image.exists_link found
  cases behind with
  | nil =>
    rw [links] at mem
    rcases List.mem_append.1 mem with inside | inside
    · have less := splits.before link' inside
      omega
    · rw [List.mem_singleton.1 inside] at ordinal
      omega
  | cons other rest =>
    have inside : other ∈ image.links := by
      rw [links]
      exact List.mem_append_right _ (List.mem_cons_of_mem _ List.mem_cons_self)
    obtain rfl : other = link' :=
      Image.link_eq inside mem ((splits.next other rest rfl).trans ordinal.symm)
    exact ⟨other, rest, rfl, ordinal, isImg, inside⟩

/-- Among lookups cached for later links none is at the address of an earlier one. -/
theorem Cached.filter_head? {back : List MapLookup} {behind : List Link} {ordinal : Nat}
    {img : LookupImage} (clean : Clean origin tally s image)
    (cached : Cached (LinkCopy tally image) (fun link => 0 < link.ordinal) back behind)
    (inside : ∀ link ∈ behind, link ∈ image.links) (later : ∀ link ∈ behind, link.ordinal ≠ ordinal)
    (found : image[ordinal]? = some img) (chosen : Option MapLookup)
    (mem : ∀ other, chosen = some other → other ∈ back) :
    chosen.filter (·.isAt (image.wordAt ordinal)) = none := by
  have readable := clean.readable
  rw [Option.filter_eq_none_iff]
  intro other isOther here
  obtain ⟨link, linkMem, copy⟩ := cached.exists_of_mem (mem other isOther)
  exact later link linkMem ((readable.isAt_wordAt copy (inside link linkMem) found).1 here)

/-- The links behind the next one are in the chain and are not the next one. -/
theorem Image.links_behind_next {before rest : List Link} {link' : Link}
    (links : image.links = before ++ link :: link' :: rest)
    (ordinal : link'.ordinal = link.ordinal + 1) :
    (∀ other ∈ rest, other ∈ image.links) ∧ ∀ other ∈ rest, other.ordinal ≠ link.ordinal + 1 := by
  have split : image.links = (before ++ [link]) ++ link' :: rest := by
    rw [links, List.append_assoc]
    rfl
  refine ⟨fun other mem => ?_, fun other mem same => ?_⟩
  · rw [split]
    exact List.mem_append_right _ (List.mem_cons_of_mem _ mem)
  · have less := (Image.links_split split).behind other mem
    omega

/-- A lookup that is cached behind another is the only new one. -/
theorem mem_mapLookupInsertAfter {added : MapLookup} (loads : s.Loads added) :
    ∀ other ∈ mapLookupInsertAfter s.part.mlookups mlookup added,
      other ∈ s.part.mlookups ∨ s.Loads other := by
  intro other mem
  generalize s.part.mlookups = mlookups at mem
  induction mlookups with
  | nil => exact absurd mem List.not_mem_nil
  | cons head rest ih =>
    rw [mapLookupInsertAfter] at mem
    split at mem
    · rcases List.mem_cons.1 mem with rfl | later
      · exact Or.inl List.mem_cons_self
      · rcases List.mem_cons.1 later with rfl | later
        · exact Or.inr loads
        · exact Or.inl (List.mem_cons_of_mem _ later)
    · rcases List.mem_cons.1 mem with rfl | later
      · exact Or.inl List.mem_cons_self
      · exact (ih later).imp_left (List.mem_cons_of_mem _)

/-- A lookup that is cached in front of another is the only new one. -/
theorem mem_mapLookupInsertBefore {added : MapLookup} (loads : s.Loads added) :
    ∀ other ∈ mapLookupInsertBefore s.part.mlookups mlookup added,
      other ∈ s.part.mlookups ∨ s.Loads other := by
  intro other mem
  generalize s.part.mlookups = mlookups at mem
  induction mlookups with
  | nil => exact absurd mem List.not_mem_nil
  | cons head rest ih =>
    rw [mapLookupInsertBefore] at mem
    split at mem
    · rcases List.mem_cons.1 mem with rfl | later
      · exact Or.inr loads
      · exact Or.inl later
    · rcases List.mem_cons.1 mem with rfl | later
      · exact Or.inl List.mem_cons_self
      · exact (ih later).imp_left (List.mem_cons_of_mem _)

/-- The last lookup of the chain comes from the disk. -/
theorem findLastFrom_loads {fuel block : Nat} {last : MapLookup}
    (ended : findLastFrom s.group s.disk fuel block = .found last) : s.Loads last := by
  induction fuel generalizing block with
  | zero => exact absurd ended (by simp [findLastFrom])
  | succ fuel ih =>
    rw [findLastFrom] at ended
    split at ended
    · exact absurd ended (by simp)
    · split at ended
      · exact absurd ended (by simp)
      · rename_i mlookup loaded
        split at ended
        · obtain rfl := Search.found.inj ended
          exact ⟨_, _, loaded⟩
        · exact ih ended

/-- The next lookup of the chain is found if there is one. -/
theorem Clean.loadNext (clean : Clean origin tally s image)
    (at_ : CachedAt tally image s mlookup link) :
    (image[link.ordinal + 1]? = none ∧ mapLookupLoadNext s mlookup = none) ∨
      ∃ next link' s', mapLookupLoadNext s mlookup = some (next, s') ∧
        link'.ordinal = link.ordinal + 1 ∧ CachedAt tally image s' next link' ∧
        Fetched tally image s s' := by
  have readable := clean.readable
  have nextBlock : mlookup.nextBlock = image.wordAt (link.ordinal + 1) := at_.copy.page.nextBlock
  cases found : image[link.ordinal + 1]? with
  | none =>
    refine Or.inl ⟨rfl, ?_⟩
    rw [mapLookupLoadNext, nextBlock, if_pos (readable.wordAt_eq_zero.2 found)]
  | some img =>
    refine Or.inr ?_
    obtain ⟨front, back, before, behind, cached, links, splits, first, second, apart⟩ :=
      clean.split at_
    obtain ⟨link', rest, rfl, ordinal, rfl, mem⟩ := splits.behind_eq links found
    have nonzero := (readable.word_eq found).2.2.2
    have getNext : mlookupGetNext s.part.mlookups mlookup = back.head? := by
      rw [cached, mlookupGetNext_append apart]
    rw [mapLookupLoadNext, nextBlock, if_neg nonzero, getNext]
    cases second with
    | @here a _ rest' _ head tail =>
      have isAt := (readable.isAt_wordAt head mem found).2 ordinal
      refine ⟨a, link', s, ?_, ordinal, ⟨?_, mem, head⟩, Fetched.refl clean.lookups⟩
      · rw [List.head?_cons, Option.filter_some, if_pos isAt]
      · rw [cached]
        exact List.mem_append_right _ (List.mem_cons_of_mem _ List.mem_cons_self)
    | away head tail =>
      obtain ⟨inside, later⟩ := Image.links_behind_next links ordinal
      rw [Cached.filter_head? clean tail inside later found back.head?
        fun other => List.mem_of_head?]
      obtain ⟨next, loaded, copy⟩ := readable.loadLookup tally found
      rw [loaded]
      have copy' : LinkCopy tally image next link' := by
        rw [LinkCopy, ordinal]
        exact copy
      have inserted : mapLookupInsertAfter s.part.mlookups mlookup next =
          front ++ mlookup :: next :: back := by
        rw [cached, mapLookupInsertAfter_append apart]
      refine ⟨next, link', _, rfl, ordinal, ⟨?_, mem, copy'⟩, ⟨⟨_, rfl⟩, ?_, ?_, ?_⟩⟩
      · rw [inserted]
        exact List.mem_append_right _ (List.mem_cons_of_mem _ List.mem_cons_self)
      · rw [inserted, LookupsClean, links]
        exact first.append (.here at_.copy (.here copy' tail))
      · intro other otherMem
        rw [inserted]
        rw [cached] at otherMem
        rcases List.mem_append.1 otherMem with inFront | inBack
        · exact List.mem_append_left _ inFront
        · refine List.mem_append_right _ ?_
          rcases List.mem_cons.1 inBack with rfl | inBack
          · exact List.mem_cons_self
          · exact List.mem_cons_of_mem _ (List.mem_cons_of_mem _ inBack)
      · exact mem_mapLookupInsertAfter ⟨_, _, loaded⟩

/-- The link in front of a split, by its place. -/
theorem LinkSplit.before_eq {before behind : List Link} (splits : LinkSplit before link behind)
    (links : image.links = before ++ link :: behind) (positive : 0 < link.ordinal) :
    ∃ link' rest, before = rest ++ [link'] ∧ link'.ordinal + 1 = link.ordinal ∧
      link' ∈ image.links := by
  rcases List.eq_nil_or_concat before with rfl | ⟨rest, link', concat⟩
  · have first : link.ordinal = 0 := by
      refine image.links_ordinal ?_
      rw [links]
      rfl
    omega
  · rw [List.concat_eq_append] at concat
    refine ⟨link', rest, concat, splits.prev link' rest concat, ?_⟩
    rw [links, concat]
    exact List.mem_append_left _ (List.mem_append_right _ List.mem_cons_self)

/-- The previous lookup of the chain is found if its address is known. -/
theorem Clean.loadPrev (clean : Clean origin tally s image)
    (at_ : CachedAt tally image s mlookup link) :
    (mlookup.prevBlock = 0 ∧ mapLookupLoadPrev s mlookup = none) ∨
      ∃ prev link' s', mapLookupLoadPrev s mlookup = some (prev, s') ∧
        link'.ordinal + 1 = link.ordinal ∧ CachedAt tally image s' prev link' ∧
        Fetched tally image s s' := by
  have readable := clean.readable
  rw [mapLookupLoadPrev]
  by_cases zero : mlookup.prevBlock = 0
  · exact Or.inl ⟨zero, if_pos zero⟩
  · have prevBlock : mlookup.prevBlock = image.prevWord link.ordinal :=
      at_.copy.page.prevBlock.resolve_left zero
    have positive : 0 < link.ordinal := by
      rcases Nat.eq_zero_or_pos link.ordinal with first | positive
      · rw [prevBlock, Image.prevWord, if_pos first] at zero
        exact absurd rfl zero
      · exact positive
    refine Or.inr ?_
    obtain ⟨front, back, before, behind, cached, links, splits, first, second, apart⟩ :=
      clean.split at_
    obtain ⟨link', rest, rfl, ordinal, mem⟩ := splits.before_eq links positive
    have found := (Image.getElem?_of_mem_links mem).1
    have word : mlookup.prevBlock = image.wordAt link'.ordinal := by
      rw [prevBlock, Image.prevWord, if_neg (by omega), ← ordinal, Nat.add_sub_cancel]
    have getPrev : mlookupGetPrev s.part.mlookups mlookup = front.getLast? := by
      rw [cached, mlookupGetPrev_append apart]
    rw [if_neg zero, getPrev, word]
    obtain ⟨front', last, rfl, firstPart, lastPart⟩ := first.of_append
    cases lastPart with
    | @here a _ none' _ head tail =>
      cases tail with
      | nil =>
        have isAt := (readable.isAt_wordAt head mem found).2 rfl
        refine ⟨a, link', s, ?_, ordinal, ⟨?_, mem, head⟩, Fetched.refl clean.lookups⟩
        · rw [List.getLast?_append_cons, List.getLast?_singleton, Option.filter_some, if_pos isAt]
        · rw [cached]
          exact List.mem_append_left _ (List.mem_append_right _ List.mem_cons_self)
    | away head tail =>
      cases tail with
      | nil =>
        rw [List.append_nil] at cached apart ⊢
        have inside : ∀ link ∈ rest, link ∈ image.links := fun other otherMem => by
          rw [links]
          exact List.mem_append_left _ (List.mem_append_left _ otherMem)
        have earlier : ∀ other ∈ rest, other.ordinal ≠ link'.ordinal := fun other otherMem same => by
          have headSplit : image.links = rest ++ link' :: (link :: behind) := by
            rw [links, List.append_assoc]
            rfl
          have less := (Image.links_split headSplit).before other otherMem
          omega
        rw [Cached.filter_head? clean firstPart inside earlier found front'.getLast?
          fun other => List.mem_of_getLast?]
        obtain ⟨prev, loaded, copy⟩ := readable.loadLookup tally found
        rw [loaded]
        have inserted : mapLookupInsertBefore s.part.mlookups mlookup prev =
            front' ++ prev :: mlookup :: back := by
          rw [cached, mapLookupInsertBefore_append apart]
        refine ⟨prev, link', _, rfl, ordinal, ⟨?_, mem, copy⟩, ⟨⟨_, rfl⟩, ?_, ?_, ?_⟩⟩
        · rw [inserted]
          exact List.mem_append_right _ List.mem_cons_self
        · rw [inserted, LookupsClean, links, List.append_assoc]
          exact firstPart.append (.here copy (.here at_.copy second))
        · intro other otherMem
          rw [inserted]
          rw [cached] at otherMem
          rcases List.mem_append.1 otherMem with inFront | inBack
          · exact List.mem_append_left _ inFront
          · exact List.mem_append_right _ (List.mem_cons_of_mem _ inBack)
        · exact mem_mapLookupInsertBefore ⟨_, _, loaded⟩

/-! ## The last lookup -/

/-- Following the chain on disk ends at a lookup without successor. -/
theorem Readable.findLastFrom {group : Bdevgroup} {disk : Disk}
    (readable : Readable group disk image) (tally : Prop) (fuel ordinal : Nat)
    {img : LookupImage} (found : image[ordinal]? = some img) {last : MapLookup}
    (ended : findLastFrom group disk fuel (image.wordAt ordinal) = .found last) :
    ∃ link ∈ image.links, LinkCopy tally image last link ∧ ordinal ≤ link.ordinal ∧
      image[link.ordinal + 1]? = none := by
  induction fuel generalizing ordinal img with
  | zero => exact absurd ended (by simp [VirtualTape.findLastFrom])
  | succ fuel ih =>
    obtain ⟨mlookup, loaded, copy⟩ := readable.loadLookup tally found
    rw [VirtualTape.findLastFrom, loaded] at ended
    split at ended
    · exact absurd ended (by simp)
    · simp only at ended
      have nextBlock : mlookup.nextBlock = image.wordAt (ordinal + 1) := copy.page.nextBlock
      rw [nextBlock] at ended
      obtain ⟨link, mem, rfl, rfl⟩ := Image.exists_link found
      split at ended
      · rename_i none
        obtain rfl : mlookup = last := by simpa using ended
        exact ⟨link, mem, copy, le_refl _, readable.wordAt_eq_zero.1 none⟩
      · rename_i more
        obtain ⟨img', found'⟩ := Option.ne_none_iff_exists'.1 (mt readable.wordAt_eq_zero.2 more)
        obtain ⟨link', mem', copy', le, none⟩ := ih (link.ordinal + 1) found' ended
        exact ⟨link', mem', copy', by omega, none⟩

/-- The last cached lookup has none cached behind it. -/
theorem Clean.split_last (clean : Clean origin tally s image)
    (at_ : CachedAt tally image s mlookup link) (last : s.part.mlookups.getLast? = some mlookup) :
    ∃ front before behind, s.part.mlookups = front ++ [mlookup] ∧
      image.links = before ++ link :: behind ∧ LinkSplit before link behind ∧
      Cached (LinkCopy tally image) (fun link => 0 < link.ordinal) front before ∧
      (∀ link ∈ behind, 0 < link.ordinal) ∧ ∀ other ∈ front, other.same mlookup = false := by
  obtain ⟨front, back, before, behind, cached, links, splits, first, second, apart⟩ :=
    clean.split at_
  have none : back = [] := by
    by_contra nonempty
    obtain ⟨x, rest, rfl⟩ := List.exists_cons_of_ne_nil nonempty
    rw [cached, List.getLast?_append_cons, List.getLast?_cons_cons] at last
    obtain ⟨link', inside, copy⟩ := second.exists_of_mem (List.mem_of_getLast? last)
    have mem : link' ∈ image.links := by
      rw [links]
      exact List.mem_append_right _ (List.mem_cons_of_mem _ inside)
    have differ := at_.copy.not_same clean.readable copy at_.mem mem (splits.behind link' inside).ne
    rw [MapLookup.same_refl] at differ
    exact Bool.false_ne_true differ.symm
  subst none
  exact ⟨front, before, behind, cached, links, splits, first, Cached.nil_iff.1 second, apart⟩

/-- The end of the chain is the last link of what is behind a link. -/
theorem LinkSplit.behind_last {before behind : List Link} (splits : LinkSplit before link behind)
    (links : image.links = before ++ link :: behind) (mem : link' ∈ image.links)
    (later : link.ordinal < link'.ordinal) (last : image[link'.ordinal + 1]? = none) :
    ∃ between, behind = between ++ [link'] := by
  have inside : link' ∈ behind := by
    rw [links] at mem
    rcases List.mem_append.1 mem with inFront | inBack
    · have less := splits.before link' inFront
      omega
    · rcases List.mem_cons.1 inBack with rfl | inBack
      · omega
      · exact inBack
  obtain ⟨between, rest, rfl⟩ := List.append_of_mem inside
  refine ⟨between, ?_⟩
  cases rest with
  | nil => rfl
  | cons other rest =>
    have split : image.links = (before ++ link :: between) ++ link' :: (other :: rest) := by
      rw [links, List.append_assoc]
      rfl
    have ordinal := (Image.links_split split).next other rest rfl
    have otherMem : other ∈ image.links := by
      rw [split]
      exact List.mem_append_right _ (List.mem_cons_of_mem _ List.mem_cons_self)
    have found := (Image.getElem?_of_mem_links otherMem).1
    rw [ordinal, last] at found
    exact absurd found (by simp)

/-- A cached lookup is a copy of some lookup of the chain. -/
theorem Clean.cachedAt (clean : Clean origin tally s image) (mem : mlookup ∈ s.part.mlookups) :
    ∃ link, CachedAt tally image s mlookup link := by
  obtain ⟨link, inside, copy⟩ := Cached.exists_of_mem clean.lookups mem
  exact ⟨link, mem, inside, copy⟩

/-- The last lookup of the chain is found and cached. -/
theorem Clean.findLast (clean : Clean origin tally s image) {fuel : Nat}
    (ended : mapLookupFindLast fuel s = .found (mlookup, s')) :
    ∃ link, CachedAt tally image s' mlookup link ∧ Fetched tally image s s' ∧
      image[link.ordinal + 1]? = none := by
  have readable := clean.readable
  rw [mapLookupFindLast] at ended
  split at ended
  · exact absurd ended (by simp)
  · rename_i cached isLast
    obtain ⟨link, at_⟩ := clean.cachedAt (List.mem_of_getLast? isLast)
    have nextBlock : cached.nextBlock = image.wordAt (link.ordinal + 1) := at_.copy.page.nextBlock
    rw [nextBlock] at ended
    cases found : image[link.ordinal + 1]? with
    | none =>
      rw [readable.wordAt_eq_zero.2 found, if_pos (by rfl)] at ended
      simp only [Search.found.injEq, Prod.mk.injEq] at ended
      obtain ⟨rfl, rfl⟩ := ended
      exact ⟨link, at_, Fetched.refl clean.lookups, found⟩
    | some img =>
      obtain ⟨-, start, -, -⟩ := readable.word_eq found
      have positive := (readable.lookupFits img (List.mem_of_getElem? found)).1
      rw [if_neg (by omega)] at ended
      split at ended
      · exact absurd ended (by simp)
      · exact absurd ended (by simp)
      · rename_i last lastFound
        obtain ⟨link', mem, copy, le, none⟩ := readable.findLastFrom tally fuel _ found lastFound
        simp only [Search.found.injEq, Prod.mk.injEq] at ended
        obtain ⟨rfl, rfl⟩ := ended
        obtain ⟨front, before, behind, list, links, splits, first, gone, apart⟩ :=
          clean.split_last at_ isLast
        obtain ⟨between, rfl⟩ := splits.behind_last links mem (by omega) none
        have inserted : mapLookupInsertAfter s.part.mlookups cached last =
            front ++ cached :: [last] := by
          rw [list, mapLookupInsertAfter_append apart]
        refine ⟨link', ⟨?_, mem, copy⟩, ⟨⟨_, rfl⟩, ?_, ?_, ?_⟩, none⟩
        · rw [inserted]
          exact List.mem_append_right _ (List.mem_cons_of_mem _ List.mem_cons_self)
        · rw [inserted, LookupsClean, links]
          refine first.append (.here at_.copy ?_)
          have away : Cached (LinkCopy tally image) (fun link => 0 < link.ordinal) [] between :=
            Cached.nil_iff.2 fun other inside => gone other (List.mem_append_left _ inside)
          exact away.append (.here copy .nil)
        · intro other otherMem
          rw [inserted]
          rw [list] at otherMem
          rcases List.mem_append.1 otherMem with inFront | inBack
          · exact List.mem_append_left _ inFront
          · rw [List.mem_singleton.1 inBack]
            exact List.mem_append_right _ List.mem_cons_self
        · exact mem_mapLookupInsertAfter (findLastFrom_loads lastFound)

end VirtualTape
