import Ddcutil.PublishedRefs
import Mathlib.Data.UInt
/-!
# PublishedRefsRuns — when an id stands for one reference

As long as no more than 2^32 ids are drawn, each reference has the id of its own drawing, and what is published is alive.
A copy draws two ids and keeps the second: 2^31 copies use the numbers up.
-/
namespace Ddc

open Kit List Function

theorem ofNat_inj_of_le {m n : Nat} (hm : 1 ≤ m) (hm' : m ≤ 4294967296) (hn : 1 ≤ n) (hn' : n ≤ 4294967296)
    (h : UInt32.ofNat m = UInt32.ofNat n) : m = n := by
  have h := congrArg UInt32.toNat h
  rw [UInt32.toNat_ofNat', UInt32.toNat_ofNat'] at h; omega

theorem ofNat_add_one (n : Nat) : UInt32.ofNat n + 1 = UInt32.ofNat (n + 1) := by
  rw [UInt32.ofNat_add]; rfl

/-! ## The invariant -/

structure RefsInv (s : PublishedRefs) : Prop where
  maxId : s.maxDrefId = UInt32.ofNat s.drawn
  bounded : s.drawn ≤ 4294967296
  drawnAs : ∀ r, r < s.created → (s.heap r).drefId = UInt32.ofNat (s.heap r).draw ∧ 1 ≤ (s.heap r).draw ∧
    (s.heap r).draw ≤ s.drawn
  increasing : ∀ r r', r < r' → r' < s.created → (s.heap r).draw < (s.heap r').draw
  resolves : ∀ drefId r, s.publishedDrefHash drefId = some r → s.Live r ∧ (s.heap r).drefId = drefId
  ever : ∀ drefId, s.everPublished drefId = true → ∃ n, 1 ≤ n ∧ n ≤ s.drawn ∧ drefId = UInt32.ofNat n
  published : ∀ drefId r, s.publishedDrefHash drefId = some r → s.retired drefId = false
  retiredEver : ∀ drefId, s.retired drefId = true → s.everPublished drefId = true

structure Listable (s : PublishedRefs) (r : Nat) : Prop where
  live : s.Live r
  transient : (s.heap r).transient = false
  retired : s.retired (s.heap r).drefId = false
  apart : r ∉ s.deserializedDisplays

structure PublishedInv (s : PublishedRefs) : Prop where
  refs : RefsInv s
  listed : ∀ refs, s.allDisplayRefs = some refs → ∀ r ∈ refs, Listable s r
  restored : ∀ r ∈ s.deserializedDisplays, s.Live r ∧ (s.heap r).transient = false

theorem refs_start_inv : RefsInv .start where
  maxId := rfl
  bounded := Nat.zero_le _
  drawnAs := fun _ h => absurd h (Nat.not_lt_zero _)
  increasing := fun _ _ _ h => absurd h (Nat.not_lt_zero _)
  resolves := fun _ _ h => by cases h
  ever := fun _ h => by cases h
  published := fun _ _ h => by cases h
  retiredEver := fun _ h => by cases h

theorem published_start_inv : PublishedInv .start where
  refs := refs_start_inv
  listed := fun _ h => by cases h
  restored := fun _ h => by cases h

variable {s s' : PublishedRefs} {r k : Nat} {heap : Nat → RefRecord} {record : RefRecord}

theorem RefsInv.distinct (h : RefsInv s) {r' : Nat} (hr : r < s.created) (hr' : r' < s.created)
    (heq : (s.heap r).drefId = (s.heap r').drefId) : r = r' := by
  obtain ⟨hid, hpos, hle⟩ := h.drawnAs r hr
  obtain ⟨hid', hpos', hle'⟩ := h.drawnAs r' hr'
  rw [hid, hid'] at heq
  have hdraw := ofNat_inj_of_le hpos (hle.trans h.bounded) hpos' (hle'.trans h.bounded) heq
  rcases Nat.lt_trichotomy r r' with hlt | hsame | hgt
  · exact absurd hdraw (h.increasing r r' hlt hr').ne
  · exact hsame
  · exact absurd hdraw (h.increasing r' r hgt hr).ne'

theorem RefsInv.right (h : RefsInv s) : PublishedRight s where
  resolves := h.resolves
  distinct := fun _ _ hr hr' heq => h.distinct hr hr' heq
  retired := by
    intro drefId hretired
    unfold drefFromPublishedDdcaDref
    cases hfound : s.publishedDrefHash drefId with
    | none => rfl
    | some r => exact absurd ((h.published drefId r hfound).symm.trans hretired) Bool.false_ne_true

/-! ## New references -/

/-- **A new reference** has the last of `k` ids that are drawn for it. -/
structure Grows (s s' : PublishedRefs) (k : Nat) : Prop where
  pos : 1 ≤ k
  created : s'.created = s.created + 1
  drawn : s'.drawn = s.drawn + k
  maxId : s.maxDrefId = UInt32.ofNat s.drawn → s'.maxDrefId = UInt32.ofNat s'.drawn
  old : ∀ r, r ≠ s.created → s'.heap r = s.heap r
  newId : (s'.heap s.created).drefId = s'.maxDrefId
  newDraw : (s'.heap s.created).draw = s'.drawn
  newLive : (s'.heap s.created).freed = false
  hash : s'.publishedDrefHash = s.publishedDrefHash
  lists : s'.allDisplayRefs = s.allDisplayRefs
  restored : s'.deserializedDisplays = s.deserializedDisplays
  ever : s'.everPublished = s.everPublished
  retired : s'.retired = s.retired

section
variable (s : PublishedRefs)

theorem createBaseRef_grows : Grows s (createBaseRef s) 1 where
  pos := Nat.le_refl 1
  created := rfl
  drawn := rfl
  maxId := by
    intro h
    show s.maxDrefId + 1 = UInt32.ofNat (s.drawn + 1)
    rw [h, ofNat_add_one]
  old := by intro r hr; exact update_of_ne hr _ _
  newId := by
    show (update s.heap s.created _ s.created).drefId = _
    rw [update_self]; rfl
  newDraw := by
    show (update s.heap s.created _ s.created).draw = _
    rw [update_self]; rfl
  newLive := by
    show (update s.heap s.created _ s.created).freed = _
    rw [update_self]
  hash := rfl
  lists := rfl
  restored := rfl
  ever := rfl
  retired := rfl

theorem createBaseRef_transient : ((createBaseRef s).heap s.created).transient = false := by
  show (update s.heap s.created _ s.created).transient = false
  rw [update_self]

theorem copyRef_heap (original r : Nat) : (copyRef s original).heap r = update (createBaseRef s).heap s.created
    ⟨s.maxDrefId + 1 + 1, s.drawn + 1 + 1, ((createBaseRef s).heap original).transient, ((createBaseRef s).heap
    original).isOpen, ((createBaseRef s).heap original).removed, false⟩ r := rfl

theorem copyRef_grows (original : Nat) : Grows s (copyRef s original) 2 where
  pos := by decide
  created := rfl
  drawn := rfl
  maxId := by
    intro h
    show s.maxDrefId + 1 + 1 = UInt32.ofNat (s.drawn + 1 + 1)
    rw [h, ofNat_add_one, ofNat_add_one]
  old := by
    intro r hr
    rw [copyRef_heap, update_of_ne hr]; exact (createBaseRef_grows s).old r hr
  newId := by rw [copyRef_heap, update_self]; rfl
  newDraw := by rw [copyRef_heap, update_self]; rfl
  newLive := by rw [copyRef_heap, update_self]
  hash := rfl
  lists := rfl
  restored := rfl
  ever := rfl
  retired := rfl

theorem copyRef_transient {original : Nat} (h : original ≠ s.created) :
    ((copyRef s original).heap s.created).transient = (s.heap original).transient := by
  rw [copyRef_heap, update_self, (createBaseRef_grows s).old original h]

end

theorem Grows.live_new (h : Grows s s' k) : s'.Live s.created :=
  ⟨by rw [h.created]; exact Nat.lt_succ_self _, h.newLive⟩

theorem Grows.live (h : Grows s s' k) (hr : s.Live r) : s'.Live r := by
  refine ⟨by rw [h.created]; exact Nat.lt_succ_of_lt hr.1, ?_⟩
  rw [h.old r hr.1.ne]; exact hr.2

theorem RefsInv.grows (h : RefsInv s) (hgrows : Grows s s' k) (hbound : s.drawn + k ≤ 4294967296) : RefsInv s' where
  maxId := hgrows.maxId h.maxId
  bounded := by rw [hgrows.drawn]; exact hbound
  drawnAs := by
    intro r hr
    rw [hgrows.created] at hr
    by_cases hnew : r = s.created
    · rw [hnew, hgrows.newId, hgrows.newDraw]
      refine ⟨hgrows.maxId h.maxId, ?_, Nat.le_refl _⟩
      rw [hgrows.drawn]; exact Nat.le_add_left_of_le hgrows.pos
    · rw [hgrows.old r hnew, hgrows.drawn]
      obtain ⟨hid, hpos, hle⟩ := h.drawnAs r (by omega)
      exact ⟨hid, hpos, by omega⟩
  increasing := by
    intro r r' hlt hr'
    rw [hgrows.created] at hr'
    rw [hgrows.old r (by omega)]
    by_cases hnew : r' = s.created
    · rw [hnew, hgrows.newDraw, hgrows.drawn]
      have hle := (h.drawnAs r (by omega)).2.2
      have hpos := hgrows.pos
      omega
    · rw [hgrows.old r' hnew]; exact h.increasing r r' hlt (by omega)
  resolves := by
    intro drefId r hfound
    rw [hgrows.hash] at hfound
    obtain ⟨hlive, hid⟩ := h.resolves drefId r hfound
    refine ⟨hgrows.live hlive, ?_⟩
    rw [hgrows.old r hlive.1.ne]; exact hid
  ever := by
    intro drefId hever
    rw [hgrows.ever] at hever
    obtain ⟨n, hpos, hle, hid⟩ := h.ever drefId hever
    exact ⟨n, hpos, by rw [hgrows.drawn]; omega, hid⟩
  published := by rw [hgrows.hash, hgrows.retired]; exact h.published
  retiredEver := by rw [hgrows.ever, hgrows.retired]; exact h.retiredEver

theorem RefsInv.new_not_retired (h : RefsInv s) (hgrows : Grows s s' k) (hbound : s.drawn + k ≤ 4294967296) :
    s'.retired (s'.heap s.created).drefId = false := by
  rw [hgrows.retired, hgrows.newId, hgrows.maxId h.maxId]
  apply Bool.eq_false_iff.2
  intro hretired
  obtain ⟨n, hpos, hle, hid⟩ := h.ever _ (h.retiredEver _ hretired)
  have hdrawn := hgrows.drawn
  have hk := hgrows.pos
  have hsame := ofNat_inj_of_le (m := s'.drawn) (by omega) (by omega) hpos (hle.trans h.bounded) hid
  omega

theorem Listable.grows (h : Listable s r) (hgrows : Grows s s' k) :
    Listable s' r where
  live := hgrows.live h.live
  transient := by rw [hgrows.old r h.live.1.ne]; exact h.transient
  retired := by rw [hgrows.old r h.live.1.ne, hgrows.retired]; exact h.retired
  apart := by rw [hgrows.restored]; exact h.apart

section
variable (h : PublishedInv s) (hgrows : Grows s s' k) (hbound : s.drawn + k ≤ 4294967296)
include h hgrows hbound

theorem PublishedInv.new_listable (htransient : (s'.heap s.created).transient = false) : Listable s' s.created where
  live := hgrows.live_new
  transient := htransient
  retired := h.refs.new_not_retired hgrows hbound
  apart := by
    rw [hgrows.restored]; exact fun hmem => absurd (h.restored _ hmem).1.1 (Nat.lt_irrefl _)

theorem PublishedInv.grows : PublishedInv s' where
  refs := h.refs.grows hgrows hbound
  listed := by
    rw [hgrows.lists]; exact fun refs hrefs r hr => (h.listed refs hrefs r hr).grows hgrows
  restored := by
    rw [hgrows.restored]
    intro r hr
    obtain ⟨hlive, htransient⟩ := h.restored r hr
    refine ⟨hgrows.live hlive, ?_⟩
    rw [hgrows.old r hlive.1.ne]; exact htransient

end

/-! ## Detection -/

theorem detectRef_grows (s : PublishedRefs) (source : DetectedSource) : Grows s (detectRef s source) (source.ids s) := by
  cases source with
  | fresh => exact createBaseRef_grows s
  | cached ndx =>
    unfold detectRef DetectedSource.ids
    cases hfound : s.deserializedDisplays[ndx]? with
    | none =>
      dsimp only
      rw [hfound, if_neg (Nat.not_lt.2 (List.getElem?_eq_none_iff.1 hfound))]
      exact createBaseRef_grows s
    | some original =>
      dsimp only
      rw [hfound, if_pos (List.getElem?_eq_some_iff.1 hfound).1]; exact copyRef_grows s original

theorem PublishedInv.detected_transient (h : PublishedInv s) (source : DetectedSource) :
    ((detectRef s source).heap s.created).transient = false := by
  cases source with
  | fresh => exact createBaseRef_transient s
  | cached ndx =>
    unfold detectRef
    cases hfound : s.deserializedDisplays[ndx]? with
    | none =>
      dsimp only
      rw [hfound]; exact createBaseRef_transient s
    | some original =>
      dsimp only
      rw [hfound]
      obtain ⟨hlive, htransient⟩ := h.restored original (mem_of_getElem? hfound)
      exact (copyRef_transient s hlive.1.ne).trans htransient

theorem ids_of_restored (h : s'.deserializedDisplays = s.deserializedDisplays) (source : DetectedSource) :
    source.ids s' = source.ids s := by
  cases source with
  | fresh => rfl
  | cached ndx =>
    unfold DetectedSource.ids
    rw [h]

/-- **What the detection leaves**: the references it returns may be listed, and nothing is published. -/
structure Detects (s : PublishedRefs) (refs : List Nat) (s' : PublishedRefs) : Prop where
  inv : PublishedInv s'
  listable : ∀ r ∈ refs, Listable s' r
  kept : ∀ r, Listable s r → Listable s' r
  lists : s'.allDisplayRefs = s.allDisplayRefs

theorem detectAllRefs_spec : ∀ (sources : List DetectedSource) {s : PublishedRefs}, PublishedInv s →
    s.drawn + (sources.map (DetectedSource.ids s)).sum ≤ 4294967296 →
      Detects s (detectAllRefs s sources).1 (detectAllRefs s sources).2
  | [], s, h, _ => ⟨h, fun _ hr => absurd hr not_mem_nil, fun _ hr => hr, rfl⟩
  | source :: sources, s, h, hbound => by
    have hgrows := detectRef_grows s source
    rw [map_cons, sum_cons] at hbound
    have hone : s.drawn + source.ids s ≤ 4294967296 := by omega
    have hrest : (detectRef s source).drawn + (sources.map (DetectedSource.ids (detectRef s source))).sum ≤ 4294967296 := by
      rw [hgrows.drawn, funext (ids_of_restored hgrows.restored)]; omega
    obtain ⟨hinv, hlistable, hkept, hlists⟩ := detectAllRefs_spec sources (h.grows hgrows hone) hrest
    refine ⟨hinv, fun r hr => ?_, fun r hr => hkept r (hr.grows hgrows), hlists.trans hgrows.lists⟩
    rcases mem_cons.1 hr with rfl | hr
    · exact hkept _ (h.new_listable hgrows hone (h.detected_transient source))
    · exact hlistable r hr

/-! ## Publishing -/

theorem PublishedInv.publish (h : PublishedInv s) (hr : Listable s r) : PublishedInv (addPublishedDrefId s r) := by
  obtain ⟨hid, hpos, hle⟩ := h.refs.drawnAs r hr.live.1
  refine ⟨⟨h.refs.maxId, h.refs.bounded, h.refs.drawnAs, h.refs.increasing, ?_, ?_, ?_, ?_⟩,
    fun refs hrefs r' hr' => ?_, h.restored⟩
  · intro drefId r' hfound
    have hfound : update s.publishedDrefHash (s.heap r).drefId (some r) drefId = some r' := hfound
    by_cases hsame : drefId = (s.heap r).drefId
    · rw [hsame, update_self] at hfound
      cases hfound; exact ⟨hr.live, hsame.symm⟩
    · rw [update_of_ne hsame] at hfound; exact h.refs.resolves drefId r' hfound
  · intro drefId hever
    have hever : update s.everPublished (s.heap r).drefId true drefId = true := hever
    by_cases hsame : drefId = (s.heap r).drefId
    · exact ⟨_, hpos, hle, hsame.trans hid⟩
    · rw [update_of_ne hsame] at hever; exact h.refs.ever drefId hever
  · intro drefId r' hfound
    have hfound : update s.publishedDrefHash (s.heap r).drefId (some r) drefId = some r' := hfound
    by_cases hsame : drefId = (s.heap r).drefId
    · rw [hsame]; exact hr.retired
    · rw [update_of_ne hsame] at hfound; exact h.refs.published drefId r' hfound
  · intro drefId hretired
    show update s.everPublished (s.heap r).drefId true drefId = true
    by_cases hsame : drefId = (s.heap r).drefId
    · rw [hsame, update_self]
    · rw [update_of_ne hsame]; exact h.refs.retiredEver drefId hretired
  · obtain ⟨hlive, htransient, hretired, hapart⟩ := h.listed refs hrefs r' hr'
    exact ⟨hlive, htransient, hretired, hapart⟩

theorem Listable.publish {r' : Nat} (h : Listable s r') : Listable (addPublishedDrefId s r) r' :=
  ⟨h.live, h.transient, h.retired, h.apart⟩

theorem PublishedInv.publishAll (refs : List Nat) : ∀ {s : PublishedRefs}, PublishedInv s → (∀ r ∈ refs, Listable s r) →
    PublishedInv (refs.foldl addPublishedDrefId s) := by
  induction refs with
  | nil => exact fun h _ => h
  | cons r refs ih =>
    intro s h hlistable
    exact ih (h.publish (hlistable r mem_cons_self))
      fun r' hr' => (hlistable r' (mem_cons_of_mem r hr')).publish

theorem RefsInv.withLists (h : RefsInv s) (refs : Option (List Nat)) : RefsInv { s with allDisplayRefs := refs } :=
  ⟨h.maxId, h.bounded, h.drawnAs, h.increasing, h.resolves, h.ever, h.published, h.retiredEver⟩

theorem Listable.withLists (h : Listable s r) (refs : Option (List Nat)) :
    Listable { s with allDisplayRefs := refs } r := ⟨h.live, h.transient, h.retired, h.apart⟩

theorem PublishedInv.withLists (h : PublishedInv s) {refs : List Nat} (hlistable : ∀ r ∈ refs, Listable s r) :
    PublishedInv { s with allDisplayRefs := some refs } where
  refs := h.refs.withLists (some refs)
  listed := by
    intro refs' hrefs r hr
    cases hrefs; exact (hlistable r hr).withLists (some refs)
  restored := h.restored

theorem PublishedInv.ensure (h : PublishedInv s) (sources : List DetectedSource) (publishAllDisplayRefs : Bool)
    (hbound : s.allDisplayRefs = none → s.drawn + (sources.map (DetectedSource.ids s)).sum ≤ 4294967296) :
    PublishedInv (ddcEnsureDisplaysDetected s sources publishAllDisplayRefs) := by
  unfold ddcEnsureDisplaysDetected
  cases hall : s.allDisplayRefs with
  | some refs => exact h
  | none =>
    obtain ⟨hinv, hlistable, -, -⟩ := detectAllRefs_spec sources h (hbound hall)
    refine (hinv.withLists hlistable).publishAll _ fun r hr => ?_
    split at hr
    · exact (hlistable r hr).withLists _
    · exact absurd hr not_mem_nil

/-! ## Flags -/

theorem RefsInv.reflag (h : RefsInv s) (hid : ∀ r, (heap r).drefId = (s.heap r).drefId)
    (hdraw : ∀ r, (heap r).draw = (s.heap r).draw) (hfreed : ∀ r, (heap r).freed = (s.heap r).freed) :
    RefsInv { s with heap := heap } where
  maxId := h.maxId
  bounded := h.bounded
  drawnAs := by
    intro r hr
    rw [hid, hdraw]; exact h.drawnAs r hr
  increasing := by
    intro r r' hlt hr'
    rw [hdraw, hdraw]; exact h.increasing r r' hlt hr'
  resolves := by
    intro drefId r hfound
    obtain ⟨hlive, hsame⟩ := h.resolves drefId r hfound
    exact ⟨⟨hlive.1, (hfreed r).trans hlive.2⟩, (hid r).trans hsame⟩
  ever := h.ever
  published := h.published
  retiredEver := h.retiredEver

theorem PublishedInv.reflag (h : PublishedInv s) (hid : ∀ r, (heap r).drefId = (s.heap r).drefId)
    (hdraw : ∀ r, (heap r).draw = (s.heap r).draw) (hfreed : ∀ r, (heap r).freed = (s.heap r).freed)
    (htransient : ∀ r, (s.heap r).transient = false → (heap r).transient = false) :
    PublishedInv { s with heap := heap } where
  refs := h.refs.reflag hid hdraw hfreed
  listed := by
    intro refs hrefs r hr
    obtain ⟨hlive, hnot, hretired, hapart⟩ := h.listed refs hrefs r hr
    refine ⟨⟨hlive.1, (hfreed r).trans hlive.2⟩, htransient r hnot, ?_, hapart⟩
    rw [hid]; exact hretired
  restored := by
    intro r hr
    obtain ⟨hlive, hnot⟩ := h.restored r hr
    exact ⟨⟨hlive.1, (hfreed r).trans hlive.2⟩, htransient r hnot⟩

theorem update_none_eq_some {hash : UInt32 → Option Nat} {gone drefId : UInt32}
    (h : update hash gone none drefId = some r) : drefId ≠ gone ∧ hash drefId = some r := by
  have hother : drefId ≠ gone := by
    rintro rfl
    rw [update_self] at h; cases h
  rw [update_of_ne hother] at h; exact ⟨hother, h⟩

theorem update_field {α : Type} (f : RefRecord → α) (h : f record = f (heap r)) (r' : Nat) :
    f (update heap r record r') = f (heap r') := by
  by_cases hr : r' = r
  · rw [hr, update_self]; exact h
  · rw [update_of_ne hr]

theorem PublishedInv.put (h : PublishedInv s) (r : Nat) (hid : record.drefId = (s.heap r).drefId)
    (hdraw : record.draw = (s.heap r).draw) (hfreed : record.freed = (s.heap r).freed)
    (htransient : (s.heap r).transient = false → record.transient = false) : PublishedInv (s.put r record) := by
  refine h.reflag (update_field RefRecord.drefId hid) (update_field RefRecord.draw hdraw)
    (update_field RefRecord.freed hfreed) fun r' hr' => ?_
  by_cases hr : r' = r
  · rw [hr, update_self]; exact htransient (hr ▸ hr')
  · rw [update_of_ne hr]; exact hr'

/-! ## Freeing and discarding -/

theorem RefsInv.free (h : RefsInv s) (hr : r < s.created) (hs : freeDisplayRef s r = .ok s') :
    RefsInv s' ∧ s'.created = s.created := by
  unfold freeDisplayRef at hs
  split at hs
  · cases hs
  · split at hs
    · cases hs
      have hid : ∀ r', (update s.heap r { s.heap r with freed := true } r').drefId = (s.heap r').drefId :=
        update_field RefRecord.drefId rfl
      have hdraw : ∀ r', (update s.heap r { s.heap r with freed := true } r').draw = (s.heap r').draw :=
        update_field RefRecord.draw rfl
      refine ⟨⟨h.maxId, h.bounded, fun r' hr' => ?_, fun r' r'' hlt hr'' => ?_, fun drefId r' hfound => ?_, h.ever,
        fun drefId r' hfound => ?_, h.retiredEver⟩, rfl⟩
      · show (update s.heap r _ r').drefId = UInt32.ofNat (update s.heap r _ r').draw ∧
          1 ≤ (update s.heap r _ r').draw ∧ (update s.heap r _ r').draw ≤ s.drawn
        rw [hid, hdraw]; exact h.drawnAs r' hr'
      · show (update s.heap r _ r').draw < (update s.heap r _ r'').draw
        rw [hdraw, hdraw]; exact h.increasing r' r'' hlt hr''
      · obtain ⟨hother, hfound⟩ := update_none_eq_some hfound
        obtain ⟨hlive, hsame⟩ := h.resolves drefId r' hfound
        have hne : r' ≠ r := by
          rintro rfl
          exact hother hsame.symm
        have hkept : update s.heap r { s.heap r with freed := true } r' = s.heap r' := update_of_ne hne _ _
        refine ⟨⟨hlive.1, ?_⟩, ?_⟩
        · show (update s.heap r _ r').freed = false
          rw [hkept]; exact hlive.2
        · show (update s.heap r _ r').drefId = drefId
          rw [hkept]; exact hsame
      · exact h.published drefId r' (update_none_eq_some hfound).2
    · cases hs; exact ⟨h, rfl⟩

theorem PublishedInv.free (h : PublishedInv s) (hr : r < s.created) (hs : freeDisplayRef s r = .ok s') :
    PublishedInv s' := by
  have hrefs := (h.refs.free hr hs).1
  unfold freeDisplayRef at hs
  split at hs
  · cases hs
  · split at hs
    · rename_i hfreeable
      cases hs
      have hother : ∀ r', (s.heap r').transient = false →
          update s.heap r { s.heap r with freed := true } r' = s.heap r' := by
        intro r' hnot
        apply update_of_ne
        rintro rfl
        exact Bool.false_ne_true (hnot.symm.trans hfreeable.1)
      refine ⟨hrefs, fun refs hlist r' hr' => ?_, fun r' hr' => ?_⟩
      · obtain ⟨hlive, hnot, hretired, hapart⟩ := h.listed refs hlist r' hr'
        refine ⟨⟨hlive.1, ?_⟩, ?_, ?_, hapart⟩
        · show (update s.heap r _ r').freed = false
          rw [hother r' hnot]; exact hlive.2
        · show (update s.heap r _ r').transient = false
          rw [hother r' hnot]; exact hnot
        · show s.retired (update s.heap r _ r').drefId = false
          rw [hother r' hnot]; exact hretired
      · obtain ⟨hlive, hnot⟩ := h.restored r' hr'
        refine ⟨⟨hlive.1, ?_⟩, ?_⟩
        · show (update s.heap r _ r').freed = false
          rw [hother r' hnot]; exact hlive.2
        · show (update s.heap r _ r').transient = false
          rw [hother r' hnot]; exact hnot
    · cases hs; exact h

theorem RefsInv.reset (h : RefsInv s) : RefsInv (resetPublishedDrefHash s) where
  maxId := h.maxId
  bounded := h.bounded
  drawnAs := h.drawnAs
  increasing := h.increasing
  resolves := fun _ _ hfound => by cases hfound
  ever := h.ever
  published := fun _ _ hfound => by cases hfound
  retiredEver := fun _ hretired => hretired

theorem PublishedInv.closeAll (h : PublishedInv s) (unclosed : List Nat) :
    PublishedInv (ddcCloseAllDisplays s unclosed) :=
  h.reflag (fun _ => rfl) (fun _ => rfl) (fun _ => rfl) fun _ hnot => hnot

structure Frees (s : PublishedRefs) (refs : List Nat) (s' : PublishedRefs) : Prop where
  inv : RefsInv s'
  created : s'.created = s.created
  restored : s'.deserializedDisplays = s.deserializedDisplays
  others : ∀ r, r ∉ refs → s'.heap r = s.heap r

theorem freeDisplayRef_frees (h : RefsInv s) (hr : r < s.created) (hs : freeDisplayRef s r = .ok s') :
    Frees s [r] s' := by
  obtain ⟨hinv, hcreated⟩ := h.free hr hs
  unfold freeDisplayRef at hs
  split at hs
  · cases hs
  · split at hs
    · cases hs
      refine ⟨hinv, hcreated, rfl, fun r' hr' => ?_⟩
      exact update_of_ne (fun heq => hr' (mem_singleton.2 heq)) _ _
    · cases hs; exact ⟨hinv, rfl, rfl, fun _ _ => rfl⟩

theorem freeAll_frees (refs : List Nat) : ∀ {s s' : PublishedRefs}, RefsInv s → (∀ r ∈ refs, r < s.created) →
    refs.foldlM freeDisplayRef s = .ok s' → Frees s refs s' := by
  induction refs with
  | nil =>
    intro s s' h _ hs
    cases hs; exact ⟨h, rfl, rfl, fun _ _ => rfl⟩
  | cons r refs ih =>
    intro s s' h hlt hs
    obtain ⟨t, ht, hs⟩ := Exec.bind_eq_ok.1 hs
    obtain ⟨hinv, hcreated, hrestored, hothers⟩ := freeDisplayRef_frees h (hlt r mem_cons_self) ht
    have hrest := ih hinv (fun r' hr' => hcreated ▸ hlt r' (mem_cons_of_mem r hr')) hs
    refine ⟨hrest.inv, hrest.created.trans hcreated, hrest.restored.trans hrestored, fun r' hr' => ?_⟩
    have hne : r' ∉ [r] := fun hmem => hr' (mem_singleton.1 hmem ▸ mem_cons_self)
    rw [hrest.others r' fun hmem => hr' (mem_cons_of_mem r hmem), hothers r' hne]

theorem PublishedInv.discard (h : PublishedInv s) (unclosed : List Nat)
    (hs : ddcDiscardDetectedDisplays s unclosed = .ok s') : PublishedInv s' := by
  have hclosed := h.closeAll unclosed
  unfold ddcDiscardDetectedDisplays at hs
  cases hall : s.allDisplayRefs with
  | none =>
    rw [hall] at hs
    cases hs
    refine ⟨hclosed.refs.reset, fun refs hrefs => ?_, hclosed.restored⟩
    cases hall.symm.trans hrefs
  | some refs =>
    rw [hall] at hs
    obtain ⟨t, ht, hs⟩ := Exec.bind_eq_ok.1 hs
    cases hs
    have hmarked : RefsInv (markTransient (resetPublishedDrefHash (ddcCloseAllDisplays s unclosed)) refs) :=
      hclosed.refs.reset.reflag (fun _ => rfl) (fun _ => rfl) fun _ => rfl
    have hfrees := freeAll_frees refs hmarked (fun r hr => (h.listed refs hall r hr).live.1) ht
    refine ⟨hfrees.inv.withLists none, fun _ hnone => (by cases hnone), fun r hr => ?_⟩
    have hr : r ∈ s.deserializedDisplays := hfrees.restored ▸ hr
    have hnot : r ∉ refs := fun hmem => (h.listed refs hall r hmem).apart hr
    obtain ⟨hlive, htransient⟩ := hclosed.restored r hr
    have hkept := hfrees.others r hnot
    refine ⟨⟨hfrees.created ▸ hlive.1, ?_⟩, ?_⟩
    · rw [hkept]; exact hlive.2
    · rw [hkept]
      show ((s.heap r).transient || refs.contains r) = false
      rw [Bool.or_eq_false_iff]
      exact ⟨htransient, by rw [contains_eq_mem]; exact decide_eq_false hnot⟩

/-! ## The other steps -/

theorem PublishedInv.restore : ∀ (n : Nat) {s : PublishedRefs}, PublishedInv s → s.drawn + n ≤ 4294967296 →
    PublishedInv (restoreDisplays s n) ∧ (restoreDisplays s n).drawn = s.drawn + n
  | 0, _, h, _ => ⟨h, rfl⟩
  | n + 1, s, h, hbound => by
    obtain ⟨hinv, hdrawn⟩ := PublishedInv.restore n h (by omega)
    have hgrows := createBaseRef_grows (restoreDisplays s n)
    have hnew := hinv.grows hgrows (by omega)
    refine ⟨⟨⟨hnew.refs.maxId, hnew.refs.bounded, hnew.refs.drawnAs, hnew.refs.increasing, hnew.refs.resolves,
      hnew.refs.ever, hnew.refs.published, hnew.refs.retiredEver⟩, fun refs hrefs r hr => ?_, fun r hr => ?_⟩, ?_⟩
    · obtain ⟨hlive, hnot, hretired, hapart⟩ := hnew.listed refs hrefs r hr
      refine ⟨hlive, hnot, hretired, fun hmem => ?_⟩
      rcases mem_append.1 hmem with hmem | hmem
      · exact hapart hmem
      · rw [mem_singleton] at hmem
        have hold := (hinv.listed refs (hgrows.lists ▸ hrefs) r hr).live.1
        exact absurd hold (by rw [hmem]; exact Nat.lt_irrefl _)
    · rcases mem_append.1 hr with hmem | hmem
      · exact hnew.restored r hmem
      · rw [mem_singleton] at hmem
        subst hmem; exact ⟨hgrows.live_new, createBaseRef_transient _⟩
    · show (restoreDisplays s n).drawn + 1 = s.drawn + (n + 1)
      omega

theorem PublishedInv.createTransient (h : PublishedInv s) (hbound : s.drawn + 1 ≤ 4294967296)
    (hid : record.drefId = ((createBaseRef s).heap s.created).drefId)
    (hdraw : record.draw = ((createBaseRef s).heap s.created).draw)
    (hfreed : record.freed = ((createBaseRef s).heap s.created).freed) :
    PublishedInv ((createBaseRef s).put s.created record) := by
  have hgrows := createBaseRef_grows s
  have hnew := h.grows hgrows hbound
  have hold : ∀ r, r ≠ s.created → update (createBaseRef s).heap s.created record r = (createBaseRef s).heap r :=
    fun r hr => update_of_ne hr _ _
  refine ⟨hnew.refs.reflag (update_field RefRecord.drefId hid) (update_field RefRecord.draw hdraw)
    (update_field RefRecord.freed hfreed), fun refs hrefs r hr => ?_, fun r hr => ?_⟩
  · have hne : r ≠ s.created := ((h.listed refs hrefs r hr).live.1).ne
    obtain ⟨hlive, hnot, hretired, hapart⟩ := hnew.listed refs hrefs r hr
    refine ⟨⟨hlive.1, ?_⟩, ?_, ?_, hapart⟩
    · show (update (createBaseRef s).heap s.created record r).freed = false
      rw [hold r hne]; exact hlive.2
    · show (update (createBaseRef s).heap s.created record r).transient = false
      rw [hold r hne]; exact hnot
    · show s.retired (update (createBaseRef s).heap s.created record r).drefId = false
      rw [hold r hne]; exact hretired
  · have hne : r ≠ s.created := ((h.restored r hr).1.1).ne
    obtain ⟨hlive, hnot⟩ := hnew.restored r hr
    refine ⟨⟨hlive.1, ?_⟩, ?_⟩
    · show (update (createBaseRef s).heap s.created record r).freed = false
      rw [hold r hne]; exact hlive.2
    · show (update (createBaseRef s).heap s.created record r).transient = false
      rw [hold r hne]; exact hnot

theorem PublishedInv.watchAdd (h : PublishedInv s) (hbound : s.drawn + 1 ≤ 4294967296) {disconnected : Bool}
    (hs : dwAddDisplay s disconnected = .ok s') : PublishedInv s' := by
  unfold dwAddDisplay at hs
  split at hs
  · cases hs; exact h.createTransient hbound rfl rfl rfl
  · split at hs
    · cases hs
    · rename_i refs hall
      cases hs
      have hgrows := createBaseRef_grows s
      have hnew := h.grows hgrows hbound
      have hlistable : ∀ r ∈ refs ++ [s.created], Listable (createBaseRef s) r := by
        intro r hr
        rcases mem_append.1 hr with hr | hr
        · exact (h.listed refs hall r hr).grows hgrows
        · rw [mem_singleton.1 hr]; exact h.new_listable hgrows hbound (createBaseRef_transient s)
      refine (hnew.withLists hlistable).publish ((hlistable s.created ?_).withLists _)
      exact mem_append_right refs mem_cons_self

theorem exists_of_listed (h : s.listed r = true) : ∃ refs, s.allDisplayRefs = some refs ∧ r ∈ refs := by
  unfold PublishedRefs.listed at h
  cases hall : s.allDisplayRefs with
  | none =>
    rw [hall] at h; cases h
  | some refs =>
    rw [hall] at h; exact ⟨refs, rfl, contains_iff_mem.1 h⟩

theorem PublishedInv.step (h : PublishedInv s) {e : PublishedEvent} (hbound : s.drawn + idsDrawn s e ≤ 4294967296)
    (hs : publishedStep s e = .ok s') : PublishedInv s' := by
  have hlive : ∀ {r : Nat} {t : PublishedRefs}, PublishedInv t → withLive s r t = .ok s' → PublishedInv s' := by
    intro r t ht hs
    unfold withLive at hs
    split at hs
    · cases hs; exact ht
    · cases hs
  have hlisted : ∀ {r : Nat} {t : PublishedRefs}, (s.listed r = true → PublishedInv t) →
      withListed s r t = .ok s' → PublishedInv s' := by
    intro r t ht hs
    unfold withListed at hs
    split at hs
    · rename_i hr
      cases hs; exact ht hr
    · cases hs; exact h
  cases e with
  | restoreCache n =>
    cases hs; exact (PublishedInv.restore n h hbound).1
  | ensureDetected sources publishAllDisplayRefs =>
    cases hs
    refine h.ensure sources publishAllDisplayRefs fun hnone => ?_
    have hbound : s.drawn + (if s.allDisplayRefs = none then (sources.map (DetectedSource.ids s)).sum else 0) ≤
        4294967296 := hbound
    rw [if_pos hnone] at hbound; exact hbound
  | discard unclosed => exact h.discard unclosed hs
  | publish r =>
    refine hlisted (fun hr => ?_) hs
    obtain ⟨refs, hrefs, hmem⟩ := exists_of_listed hr
    exact h.publish (h.listed refs hrefs r hmem)
  | watchAdd disconnected => exact h.watchAdd hbound hs
  | watchRemove r =>
    refine hlisted (fun _ => ?_) hs
    exact h.put r rfl rfl rfl id
  | recheck r =>
    refine hlisted (fun _ => ?_) hs
    exact h.put r rfl rfl rfl fun _ => rfl
  | createTransient =>
    cases hs; exact h.createTransient hbound rfl rfl rfl
  | copy r => exact hlive (h.grows (copyRef_grows s r) hbound) hs
  | free r =>
    unfold publishedStep at hs
    dsimp only at hs
    split at hs
    · rename_i hr; exact h.free hr hs
    · cases hs
  | openDisplay r =>
    refine hlive ?_ hs
    exact h.put r rfl rfl rfl id
  | closeDisplay r =>
    refine hlive ?_ hs
    exact h.put r rfl rfl rfl id

/-- **In every run that draws no more than 2^32 ids, the table is right after every step.** -/
theorem published_right (events : List PublishedEvent)
    (hbound : AllAlong publishedStep (fun s e => s.drawn + idsDrawn s e ≤ 4294967296) .start events) :
    AllAlong publishedStep (fun s e => ∀ s', publishedStep s e = .ok s' → PublishedRight s') .start events :=
  hbound.imp_of_inv (fun _ _ h hbound _ hs => (PublishedInv.step h hbound hs).refs.right)
    (fun _ _ _ h hbound hs => PublishedInv.step h hbound hs) published_start_inv

theorem published_right_restored : AllAlong publishedStep
    (fun s e => ∀ s', publishedStep s e = .ok s' → PublishedRight s') .start
    [.restoreCache 1, .ensureDetected [.cached 0, .fresh] true, .discard []] := by
  refine published_right _ ?_
  refine .cons (by decide) rfl ?_
  refine .cons (by decide) rfl ?_
  exact ⟨by decide, fun _ _ => trivial⟩

/-! ## Too many copies -/

structure Copied (s : PublishedRefs) (k : Nat) : Prop where
  created : s.created = k + 1
  maxId : s.maxDrefId = UInt32.ofNat (2 * k + 1)
  live : (s.heap 0).freed = false
  first : (s.heap 0).drefId = 1

theorem Copied.step (h : Copied s k) :
    publishedStep s (.copy 0) = .ok (copyRef s 0) ∧ Copied (copyRef s 0) (k + 1) := by
  have hlive : s.Live 0 := ⟨by rw [h.created]; exact Nat.succ_pos k, h.live⟩
  have hgrows := copyRef_grows s 0
  refine ⟨if_pos hlive, ⟨hgrows.created.trans (congrArg _ h.created), ?_, ?_, ?_⟩⟩
  · show s.maxDrefId + 1 + 1 = _
    rw [h.maxId, ofNat_add_one, ofNat_add_one]; rfl
  · rw [hgrows.old 0 hlive.1.ne]; exact h.live
  · rw [hgrows.old 0 hlive.1.ne]; exact h.first

theorem Copied.run (n : Nat) : ∀ {s : PublishedRefs} {k : Nat}, Copied s k →
    ∃ t, (List.replicate n (.copy 0)).foldlM publishedStep s = .ok t ∧ Copied t (k + n) := by
  induction n with
  | zero => exact fun h => ⟨_, rfl, h⟩
  | succ n ih =>
    intro s k h
    obtain ⟨hstep, hnext⟩ := h.step
    obtain ⟨t, ht, hcopied⟩ := ih hnext
    refine ⟨t, ?_, ?_⟩
    · rw [replicate_succ, foldlM_cons, hstep]; exact ht
    · rw [Nat.add_right_comm] at hcopied; exact hcopied

theorem copied_start (hs : publishedStep .start .createTransient = .ok s) : Copied s 0 := by
  cases hs; exact ⟨rfl, rfl, rfl, rfl⟩

/-- **After 2^31 copies the latest has the id of the original.** -/
theorem manyCopies_not_right : ¬ AllAlong publishedStep
    (fun s e => ∀ s', publishedStep s e = .ok s' → PublishedRight s') .start
    (.createTransient :: (List.replicate 2147483647 (.copy 0) ++ [.copy 0])) := by
  rintro ⟨-, hrest⟩
  obtain ⟨t, ht, hcopied⟩ := Copied.run 2147483647 (copied_start rfl)
  obtain ⟨hstep, hlast⟩ := hcopied.step
  have hright := (hrest _ rfl).last ht _ hstep
  have hcreated : t.created = 2147483648 := hcopied.created
  have hlt : t.created < (copyRef t 0).created := by exact Nat.lt_succ_self _
  have hsame : ((copyRef t 0).heap 0).drefId = ((copyRef t 0).heap t.created).drefId := by
    rw [hlast.first, (copyRef_grows t 0).newId, hlast.maxId]; decide
  have hzero := hright.distinct 0 t.created (by omega) hlt hsame
  omega

end Ddc
