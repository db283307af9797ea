/-
The blobs of a camera from frame to frame (`blobwatch_process` of `t_rift_blobwatch.c`). Each blob is matched with the
closest one of the frame before, which it may take from another, and gets its id and its track slot. The table of the
slots is in an observation from a pool and still holds what the observation was last used for: `frames_keepTracks`
says when that does not show.
-/
import Mathlib.Data.Rat.Floor
import AugmentedInsanity.Lib.RingFifo
import AugmentedInsanity.Lib.Runs
import AugmentedInsanity.Lib.Matchings

namespace AugmentedInsanity.Tracking

open RingFifo Runs Usurping

abbrev XRT_CONSTELLATION_MAX_BLOBS_PER_FRAME : ℕ := 250
abbrev NUM_FRAMES_HISTORY : ℕ := 5
abbrev QUEUE_ENTRIES : ℕ := NUM_FRAMES_HISTORY + 1
abbrev LED_INVALID_ID : UInt16 := 0xffff

/-! ## Observations -/

/-- `struct blob`; a track index of -1 is `none`. -/
structure Blob where
  blobId : UInt32
  x : ℚ
  y : ℚ
  vx : ℚ
  vy : ℚ
  brightness : UInt8
  top : UInt16
  left : UInt16
  width : UInt16
  height : UInt16
  area : UInt32
  age : UInt32
  trackIndex : Option ℕ
  idAge : UInt32
  ledId : UInt16
  prevLedId : UInt16

def Blob.zero : Blob := ⟨0, 0, 0, 0, 0, 0, 0, 0, 0, 0, 0, 0, some 0, 0, 0, 0⟩

structure Blobservation where
  numBlobs : ℕ
  blobs : ℕ → Blob
  tracked : ℕ → ℕ

def Blobservation.zero : Blobservation := ⟨0, fun _ => .zero, fun _ => 0⟩

/-- What `extent_to_blobs` hands to `store_blob`. -/
structure Detected where
  ledX : ℚ
  ledY : ℚ
  brightness : UInt8
  top : UInt16
  left : UInt16
  width : UInt16
  height : UInt16
  area : UInt32

def storeBlob (b : Detected) (blobId : UInt32) : Blob where
  blobId := blobId
  x := b.ledX
  y := b.ledY
  vx := 0
  vy := 0
  brightness := b.brightness
  top := b.top
  left := b.left
  width := b.width
  height := b.height
  area := b.area
  age := 0
  trackIndex := none
  idAge := 0
  ledId := LED_INVALID_ID
  prevLedId := LED_INVALID_ID

/-- The observation and the next id, after one more blob. -/
def extentToBlobs (s : Blobservation × UInt32) (b : Detected) : Blobservation × UInt32 :=
  if s.1.numBlobs < XRT_CONSTELLATION_MAX_BLOBS_PER_FRAME then
    ({ s.1 with blobs := Function.update s.1.blobs s.1.numBlobs (storeBlob b s.2), numBlobs := s.1.numBlobs + 1 }, s.2 + 1)
  else s

def processFrame (ob : Blobservation) (nextBlobId : UInt32) (frame : List Detected) : Blobservation × UInt32 :=
  frame.foldl extentToBlobs ({ ob with numBlobs := 0 }, nextBlobId)

/-! ## Matching -/

/-- The arrays of the matching: `left` is `closest_ob`, `right` is `closest_last_ob`. -/
structure Closest extends Matching ℕ ℕ where
  lastObDistsq : ℕ → ℤ

def Closest.clear : Closest := ⟨.empty, fun _ => 1000000⟩

/-- The square of the distance from where `b1` is expected next. -/
def distsq (b1 b2 : Blob) : ℚ :=
  let dx := |b1.x + b1.vx - b2.x|
  let dy := |b1.y + b1.vy - b2.y|
  dx * dx + dy * dy

/-- The loop over the previous blobs: `closest_j` and `closest_distsq`, which is -1 at first and gets whole numbers. -/
def findClosest (m : Closest) (maxMatchDistSq : ℚ) (lastOb : Blobservation) (b2 : Blob) : Option ℕ × ℤ :=
  (List.range lastOb.numBlobs).foldl (fun closest j =>
    let d := distsq (lastOb.blobs j) b2
    if 0 < maxMatchDistSq ∧ maxMatchDistSq < d then closest
    else if closest.2 < 0 ∨ d < closest.2 then
      if (m.right j).isSome ∧ (m.lastObDistsq j : ℚ) ≤ d then closest else (some j, ⌊d⌋)
    else closest) (none, -1)

/-- One blob of a scan, and how often blobs have lost theirs. -/
def scanBlob (maxMatchDistSq : ℚ) (ob lastOb : Blobservation) (s : Closest × ℕ) (i : ℕ) : Closest × ℕ :=
  if (s.1.left i).isSome then s
  else
    match findClosest s.1 maxMatchDistSq lastOb (ob.blobs i) with
    | (none, _) => s
    | (some j, d) =>
      (⟨s.1.usurp i j, Function.update s.1.lastObDistsq j d⟩, if (s.1.right j).isSome then s.2 + 1 else s.2)

def scan (maxMatchDistSq : ℚ) (ob lastOb : Blobservation) (m : Closest) : Closest × ℕ :=
  (List.range ob.numBlobs).foldl (scanBlob maxMatchDistSq ob lastOb) (m, 0)

/-- The loop of scans, as long as `fuel` lasts, with the number of scans. -/
def rescan (maxMatchDistSq : ℚ) (ob lastOb : Blobservation) :
    ℕ → Closest → (scanAgain scanTimes : ℕ) → Option (Closest × ℕ)
  | 0, _, _, _ => none
  | fuel + 1, m, scanAgain, scanTimes =>
    if scanAgain ≠ 0 ∧ scanTimes ≤ 100 then
      let r := scan maxMatchDistSq ob lastOb m
      rescan maxMatchDistSq ob lastOb fuel r.1 r.2 (scanTimes + 1)
    else some (m, scanTimes)

/-- `closest_ob` after the loop. -/
def matchBlobs (fuel : ℕ) (maxMatchDistSq : ℚ) (ob lastOb : Blobservation) : Option Closest :=
  (rescan maxMatchDistSq ob lastOb fuel .clear 1 0).map (·.1)

/-! ## Tracks -/

def findFreeTrack (tracked : ℕ → ℕ) : Option ℕ :=
  (List.range XRT_CONSTELLATION_MAX_BLOBS_PER_FRAME).find? fun i => tracked i = 0

def copyMatchingBlob (b2 b1 : Blob) : Blob :=
  { b2 with
    blobId := b1.blobId
    vx := b2.x - b1.x
    vy := b2.y - b1.y
    idAge := b1.idAge
    ledId := b1.ledId
    age := b1.age + 1 }

/-- Takes over the track of the previous blob, if the slot is not set. -/
def copyTrack (ob : Blobservation) (i : ℕ) (trackIndex : Option ℕ) : Blobservation :=
  match trackIndex with
  | some t =>
    if ob.tracked t = 0 then
      { ob with
        blobs := Function.update ob.blobs i { ob.blobs i with trackIndex := some t }
        tracked := Function.update ob.tracked t (i + 1) }
    else ob
  | none => ob

def copyMatched (m : Closest) (lastOb : Blobservation) (ob : Blobservation) (i : ℕ) : Blobservation :=
  match m.left i with
  | none => ob
  | some j =>
    let ob := copyTrack ob i (lastOb.blobs j).trackIndex
    { ob with blobs := Function.update ob.blobs i (copyMatchingBlob (ob.blobs i) (lastOb.blobs j)) }

/-- Clears the slots of blobs that have gone missing. -/
def clearMissing (ob : Blobservation) : Blobservation :=
  { ob with
    tracked := fun i =>
      let t := ob.tracked i
      if 0 < t ∧ (ob.blobs (t - 1)).trackIndex ≠ some i then 0 else t }

/-- The blob and the slot, if there is one, name each other. -/
def putInSlot (ob : Blobservation) (i : ℕ) (trackIndex : Option ℕ) : Blobservation :=
  { ob with
    blobs := Function.update ob.blobs i { ob.blobs i with trackIndex }
    tracked := match trackIndex with
      | some t => Function.update ob.tracked t (i + 1)
      | none => ob.tracked }

/-- A blob that was there before gets a slot, and each one is put into its slot. -/
def assignTrack (ob : Blobservation) (i : ℕ) : Blobservation :=
  let b2 := ob.blobs i
  putInSlot ob i (if 0 < b2.age ∧ b2.trackIndex = none then findFreeTrack ob.tracked else b2.trackIndex)

def trackBlobs (m : Closest) (lastOb ob : Blobservation) : Blobservation :=
  let ob := (List.range ob.numBlobs).foldl (copyMatched m lastOb) ob
  (List.range ob.numBlobs).foldl assignTrack (clearMissing ob)

/-! ## Frames -/

/-- `struct t_rift_blobwatch`; observations are named by their place in the pool. -/
structure RiftBlobwatch where
  nextBlobId : UInt32
  maxMatchDistSq : ℚ
  observations : ℕ → Blobservation
  observationQ : Ring QUEUE_ENTRIES ℕ
  lastObservation : Option ℕ

abbrev SCAN_FUEL : ℕ := 102

/-- The state, and the observation that is handed out. An empty queue fails an assertion. -/
def blobwatchProcess (bw : RiftBlobwatch) (frame : List Detected) : Option (RiftBlobwatch × ℕ) :=
  bw.observationQ.pop.bind fun (k, q) =>
    let (ob, nextBlobId) := processFrame (bw.observations k) bw.nextBlobId frame
    let processed (ob : Blobservation) : RiftBlobwatch :=
      { bw with
        nextBlobId
        observations := Function.update bw.observations k ob
        observationQ := q
        lastObservation := some k }
    match bw.lastObservation with
    | none => some (processed ob, k)
    | some l =>
      let lastOb := bw.observations l
      (matchBlobs SCAN_FUEL bw.maxMatchDistSq ob lastOb).map fun m => (processed (trackBlobs m lastOb ob), k)

/-- `push_frame`, which gives the observation back. No room in the queue fails an assertion. -/
def pushFrame (bw : RiftBlobwatch) (frame : List Detected) : Option RiftBlobwatch :=
  (blobwatchProcess bw frame).bind fun (bw, k) =>
    (bw.observationQ.push k).map fun q => { bw with observationQ := q }

/-- `t_rift_blobwatch_create`, after the loop that fills the queue. -/
def riftBlobwatchCreate (maxMatchDist : ℚ) : RiftBlobwatch where
  nextBlobId := 1
  maxMatchDistSq := maxMatchDist * maxMatchDist
  observations := fun _ => .zero
  observationQ := ⟨id, 0, NUM_FRAMES_HISTORY, by decide, by decide⟩
  lastObservation := none

/-! ## The matching is one to one -/

theorem foldl_range_keeps {β : Type*} {f : β → ℕ → β} {P : ℕ → β → Prop} {n : ℕ} {b : β} (h : P 0 b)
    (hround : ∀ i < n, ∀ b, P i b → P (i + 1) (f b i)) : P n ((List.range n).foldl f b) := by
  induction n with
  | zero => exact h
  | succ n ih =>
    rw [List.range_succ, List.foldl_append]
    exact hround n (Nat.lt_succ_self n) _ (ih fun i hi => hround i (Nat.lt_succ_of_lt hi))

/-- Those that are matched are blobs of the two frames, and no two have the same partner. -/
structure Closest.Between (m : Closest) (n n' : ℕ) : Prop where
  twoSided : m.Mutual
  within : ∀ i j, m.left i = some j → i < n ∧ j < n'

variable {maxMatchDistSq : ℚ} {ob lastOb ob₀ : Blobservation} {m : Closest} {s t i j k n : ℕ}
  {fuel scanAgain scanTimes : ℕ}

theorem clear_between (n n' : ℕ) : Closest.clear.Between n n' := ⟨Matching.mutual_empty, fun _ _ h => nomatch h⟩

theorem findClosest_lt {b2 : Blob} (h : (findClosest m maxMatchDistSq lastOb b2).1 = some j) :
    j < lastOb.numBlobs := by
  refine foldl_range_keeps (P := fun _ (closest : Option ℕ × ℤ) => ∀ j, closest.1 = some j → j < lastOb.numBlobs)
    (fun _ h => by cases h) (fun i hi closest hclosest => ?_) j h
  dsimp only
  split_ifs
  · exact hclosest
  · exact hclosest
  · rintro _ ⟨⟩
    exact hi
  · exact hclosest

theorem scanBlob_between {r : Closest × ℕ} (h : r.1.Between ob.numBlobs lastOb.numBlobs) (hi : i < ob.numBlobs) :
    (scanBlob maxMatchDistSq ob lastOb r i).1.Between ob.numBlobs lastOb.numBlobs := by
  unfold scanBlob
  split
  · exact h
  · next hmatched =>
    have hfree : r.1.left i = none := Option.not_isSome_iff_eq_none.1 hmatched
    split
    · exact h
    · next j d hfind =>
      have hj : j < lastOb.numBlobs := findClosest_lt (congrArg Prod.fst hfind)
      refine ⟨h.twoSided.usurp hfree, fun x y hxy => ?_⟩
      have hleft := Matching.left_usurp (b := j) h.twoSided hfree x
      rw [hleft] at hxy
      split_ifs at hxy with hx
      · cases hxy
        exact ⟨hx ▸ hi, hj⟩
      · exact h.within x y hxy

theorem scan_between (h : m.Between ob.numBlobs lastOb.numBlobs) :
    (scan maxMatchDistSq ob lastOb m).1.Between ob.numBlobs lastOb.numBlobs :=
  foldl_range_keeps (P := fun _ (r : Closest × ℕ) => r.1.Between ob.numBlobs lastOb.numBlobs) h fun _ hi _ hr => scanBlob_between hr hi

theorem rescan_between (h : m.Between ob.numBlobs lastOb.numBlobs) {r : Closest × ℕ}
    (hr : rescan maxMatchDistSq ob lastOb fuel m scanAgain scanTimes = some r) :
    r.1.Between ob.numBlobs lastOb.numBlobs := by
  induction fuel generalizing m scanAgain scanTimes with
  | zero => cases hr
  | succ fuel ih =>
    rw [rescan] at hr
    split at hr
    · exact ih (scan_between h) hr
    · cases hr
      exact h

theorem rescan_ends (hfuel : 0 < fuel) (h : 102 ≤ fuel + scanTimes) :
    ∃ r, ∀ more, rescan maxMatchDistSq ob lastOb (fuel + more) m scanAgain scanTimes = some r := by
  induction fuel generalizing m scanAgain scanTimes with
  | zero => cases hfuel
  | succ fuel ih =>
    simp only [Nat.add_right_comm fuel 1, rescan]
    split
    · next hcond => exact ih (by omega) (by omega)
    · exact ⟨_, fun _ => rfl⟩

theorem matchBlobs_spec (maxMatchDistSq : ℚ) (ob lastOb : Blobservation) :
    ∃ m, (∀ more, matchBlobs (SCAN_FUEL + more) maxMatchDistSq ob lastOb = some m) ∧
      m.Between ob.numBlobs lastOb.numBlobs := by
  obtain ⟨r, hr⟩ := @rescan_ends maxMatchDistSq ob lastOb .clear SCAN_FUEL 1 0 (by decide) le_rfl
  refine ⟨r.1, fun more => ?_, rescan_between (clear_between _ _) (hr 0)⟩
  rw [matchBlobs, hr more]
  rfl

/-! ## New blobs -/

def count (frame : List Detected) : ℕ := min frame.length XRT_CONSTELLATION_MAX_BLOBS_PER_FRAME

/-- After `n` blobs have been stored in `ob`. -/
structure Stored (ob : Blobservation) (nextBlobId : UInt32) (n : ℕ) (r : Blobservation × UInt32) : Prop where
  numBlobs : r.1.numBlobs = n
  tracked : r.1.tracked = ob.tracked
  next : r.2 = nextBlobId + UInt32.ofNat n
  blobId : ∀ i < n, (r.1.blobs i).blobId = nextBlobId + UInt32.ofNat i
  trackIndex : ∀ i < n, (r.1.blobs i).trackIndex = none
  others : ∀ i, n ≤ i → r.1.blobs i = ob.blobs i

theorem Stored.extentToBlobs {nextBlobId : UInt32} {r : Blobservation × UInt32} (h : Stored ob nextBlobId n r)
    (b : Detected) :
    Stored ob nextBlobId (min (n + 1) (max n XRT_CONSTELLATION_MAX_BLOBS_PER_FRAME)) (extentToBlobs r b) := by
  unfold Tracking.extentToBlobs
  rw [h.numBlobs]
  split
  · next hroom =>
    rw [Nat.min_eq_left (by omega)]
    have hblob : ∀ i, Function.update r.1.blobs n (storeBlob b r.2) i =
        if i = n then storeBlob b r.2 else r.1.blobs i := fun i => Function.update_apply ..
    refine ⟨rfl, h.tracked, ?_, fun i hi => ?_, fun i hi => ?_, fun i hi => ?_⟩
    · rw [h.next, UInt32.ofNat_add, ← UInt32.add_assoc]
      rfl
    · dsimp only
      rw [hblob]
      split
      · next heq => rw [heq, storeBlob, h.next]
      · exact h.blobId i (by omega)
    · dsimp only
      rw [hblob]
      split
      · rfl
      · exact h.trackIndex i (by omega)
    · exact (Function.update_of_ne (by omega) ..).trans (h.others i (by omega))
  · next hfull =>
    rw [Nat.min_eq_right (by omega), Nat.max_eq_left (by omega)]
    exact h

theorem processFrame_stored (ob : Blobservation) (nextBlobId : UInt32) (frame : List Detected) :
    Stored ob nextBlobId (count frame) (processFrame ob nextBlobId frame) := by
  suffices hfold : ∀ n r, n ≤ XRT_CONSTELLATION_MAX_BLOBS_PER_FRAME → Stored ob nextBlobId n r →
      Stored ob nextBlobId (min (n + frame.length) XRT_CONSTELLATION_MAX_BLOBS_PER_FRAME)
        (frame.foldl extentToBlobs r) by
    have h := hfold 0 ({ ob with numBlobs := 0 }, nextBlobId) (Nat.zero_le _)
      ⟨rfl, rfl, by simp, fun _ h => absurd h (Nat.not_lt_zero _), fun _ h => absurd h (Nat.not_lt_zero _),
        fun _ _ => rfl⟩
    rw [Nat.zero_add] at h
    exact h
  induction frame with
  | nil =>
    intro n r hn h
    rwa [List.length_nil, Nat.add_zero, Nat.min_eq_left hn]
  | cons b frame ih =>
    intro n r hn h
    have hnext := ih _ _ (by omega) (h.extentToBlobs b)
    rw [Nat.max_eq_right hn] at hnext
    rw [List.length_cons, List.foldl_cons]
    convert hnext using 1
    omega

/-! ## Slots -/

def Linked (ob : Blobservation) : Prop :=
  ∀ s t, ob.tracked s = t + 1 ↔ t < ob.numBlobs ∧ (ob.blobs t).trackIndex = some s

theorem Linked.unique (h : Linked ob) (hi : i < ob.numBlobs) (hj : j < ob.numBlobs)
    (hs : (ob.blobs i).trackIndex = some s) (hs' : (ob.blobs j).trackIndex = some s) : i = j :=
  Nat.succ.inj (((h s i).2 ⟨hi, hs⟩).symm.trans ((h s j).2 ⟨hj, hs'⟩))

/-- A blob as `copyMatched` leaves it when it takes over the track. -/
def copied (m : Closest) (lastOb : Blobservation) (i : ℕ) (b : Blob) : Blob :=
  match m.left i with
  | none => b
  | some j => copyMatchingBlob { b with trackIndex := (lastOb.blobs j).trackIndex } (lastOb.blobs j)

/-- One of the first `k` blobs, `t`, takes over the slot `s`. -/
def Takes (m : Closest) (lastOb : Blobservation) (k s t : ℕ) : Prop :=
  t < k ∧ ∃ j, m.left t = some j ∧ (lastOb.blobs j).trackIndex = some s

theorem takes_succ : Takes m lastOb (k + 1) s t ↔
    Takes m lastOb k s t ∨ t = k ∧ ∃ j, m.left k = some j ∧ (lastOb.blobs j).trackIndex = some s := by
  unfold Takes
  rw [Nat.lt_succ_iff_lt_or_eq, or_and_right]
  refine or_congr_right (and_congr_right fun heq => ?_)
  rw [heq]

theorem takes_succ_of_not (h : ∀ j, m.left k = some j → (lastOb.blobs j).trackIndex ≠ some s) :
    Takes m lastOb (k + 1) s t ↔ Takes m lastOb k s t := by
  rw [takes_succ]
  exact or_iff_left fun ⟨_, j, hj, hs⟩ => h j hj hs

/-- The first `k` blobs have taken over what they get. -/
structure Copied (m : Closest) (lastOb ob₀ : Blobservation) (k : ℕ) (ob : Blobservation) : Prop where
  numBlobs : ob.numBlobs = ob₀.numBlobs
  blobs : ∀ i, ob.blobs i = if i < k then copied m lastOb i (ob₀.blobs i) else ob₀.blobs i
  tracked : ∀ s t, ob.tracked s = t + 1 ↔ Takes m lastOb k s t ∨ ob₀.tracked s = t + 1

/-- A table has the slots free that matched blobs take over. -/
def SlotsFree (m : Closest) (lastOb : Blobservation) (tracked : ℕ → ℕ) : Prop :=
  ∀ i j s, m.left i = some j → (lastOb.blobs j).trackIndex = some s → tracked s = 0

/-- A table names no blob from before that is still there, and has the slot. -/
def NoneLeft (ob : Blobservation) (numBlobs : ℕ) : Prop :=
  ∀ s t, ob.tracked s = t + 1 → numBlobs ≤ t → (ob.blobs t).trackIndex ≠ some s

theorem Copied.slot_free (h : Copied m lastOb ob₀ k ob) (hm : m.Between ob₀.numBlobs lastOb.numBlobs)
    (hlinked : Linked lastOb) (hfree : SlotsFree m lastOb ob₀.tracked) (hleft : m.left k = some j)
    (hslot : (lastOb.blobs j).trackIndex = some s) : ob.tracked s = 0 := by
  obtain ⟨-, hj⟩ := hm.within k j hleft
  rcases htracked : ob.tracked s with _ | i
  · rfl
  · rcases (h.tracked s i).1 htracked with ⟨hlt, j', hj', hs⟩ | hstale
    · obtain rfl := hlinked.unique hj (hm.within i j' hj').2 hslot hs
      exact absurd (hm.twoSided.unique hj' hleft) (Nat.ne_of_lt hlt)
    · rw [hfree k j s hleft hslot] at hstale
      cases hstale

theorem Copied.blobs_succ (h : Copied m lastOb ob₀ k ob) {f : ℕ → Blob} (hf : ∀ i, i ≠ k → f i = ob.blobs i) (i : ℕ) :
    Function.update f k (copied m lastOb k (ob₀.blobs k)) i =
      if i < k + 1 then copied m lastOb i (ob₀.blobs i) else ob₀.blobs i := by
  rw [Function.update_apply]
  split
  · next heq => rw [heq, if_pos (Nat.lt_succ_self k)]
  · next hne =>
    rw [hf i hne, h.blobs]
    exact if_congr (by omega) rfl rfl

theorem Copied.copyMatched (h : Copied m lastOb ob₀ k ob) (hm : m.Between ob₀.numBlobs lastOb.numBlobs)
    (hlinked : Linked lastOb) (hfree : SlotsFree m lastOb ob₀.tracked) (hnew : (ob₀.blobs k).trackIndex = none) :
    Copied m lastOb ob₀ (k + 1) (copyMatched m lastOb ob k) := by
  have hk : ob.blobs k = ob₀.blobs k := by rw [h.blobs, if_neg (Nat.lt_irrefl k)]
  rcases hleft : m.left k with _ | j
  · have heq : Tracking.copyMatched m lastOb ob k = ob := by rw [Tracking.copyMatched, hleft]
    have hcopied : copied m lastOb k (ob₀.blobs k) = ob.blobs k := by rw [copied, hleft, hk]
    rw [heq]
    refine ⟨h.numBlobs, fun i => ?_, fun s t => ?_⟩
    · rw [← h.blobs_succ (fun _ _ => rfl) i, hcopied, Function.update_eq_self]
    · rw [h.tracked, takes_succ_of_not fun j hj => by rw [hleft] at hj; cases hj]
  · rcases hslot : (lastOb.blobs j).trackIndex with _ | t
    · have heq : Tracking.copyMatched m lastOb ob k =
          { ob with blobs := Function.update ob.blobs k (copyMatchingBlob (ob.blobs k) (lastOb.blobs j)) } := by
        simp only [Tracking.copyMatched, hleft, copyTrack, hslot]
      have hcopied : copyMatchingBlob (ob.blobs k) (lastOb.blobs j) = copied m lastOb k (ob₀.blobs k) := by
        simp only [copied, hleft, hslot, ← hnew, hk]
      rw [heq, hcopied]
      refine ⟨h.numBlobs, h.blobs_succ fun _ _ => rfl, fun s t => ?_⟩
      rw [takes_succ_of_not fun j' hj' hs => by
        rw [hleft] at hj'
        cases hj'
        rw [hslot] at hs
        cases hs]
      exact h.tracked s t
    · have hnone := h.slot_free hm hlinked hfree hleft hslot
      have hcopied : copyMatchingBlob { ob.blobs k with trackIndex := some t } (lastOb.blobs j) =
          copied m lastOb k (ob₀.blobs k) := by
        simp only [copied, hleft, hslot, hk]
      have heq : Tracking.copyMatched m lastOb ob k =
          { ob with
            blobs := Function.update (Function.update ob.blobs k { ob.blobs k with trackIndex := some t }) k
              (copied m lastOb k (ob₀.blobs k))
            tracked := Function.update ob.tracked t (k + 1) } := by
        simp only [Tracking.copyMatched, hleft, copyTrack, hslot, hnone, if_true, Function.update_self, hcopied]
      rw [heq]
      refine ⟨h.numBlobs, h.blobs_succ fun i hne => Function.update_of_ne hne .., fun s i => ?_⟩
      show Function.update ob.tracked t (k + 1) s = i + 1 ↔ _
      rw [Function.update_apply, takes_succ]
      split
      · next heq =>
        subst heq
        have hnot : ¬ (Takes m lastOb k s i ∨ ob₀.tracked s = i + 1) := fun hor => by
          rw [(h.tracked s i).2 hor] at hnone
          cases hnone
        rw [or_right_comm, or_iff_right hnot]
        exact ⟨fun hi => ⟨(Nat.succ.inj hi).symm, j, hleft, hslot⟩, fun hi => by rw [hi.1]⟩
      · next hne =>
        have hnot : ¬ (i = k ∧ ∃ j, m.left k = some j ∧ (lastOb.blobs j).trackIndex = some s) := by
          rintro ⟨-, j', hj', hs⟩
          rw [hleft] at hj'
          cases hj'
          exact hne (Option.some.inj (hs.symm.trans hslot))
        rw [h.tracked, or_iff_left hnot]

theorem clearMissing_tracked (ob : Blobservation) (s t : ℕ) :
    (clearMissing ob).tracked s = t + 1 ↔ ob.tracked s = t + 1 ∧ (ob.blobs t).trackIndex = some s := by
  show (if 0 < ob.tracked s ∧ (ob.blobs (ob.tracked s - 1)).trackIndex ≠ some s then 0 else ob.tracked s) = t + 1 ↔ _
  split
  · next h =>
    constructor
    · intro hzero
      cases hzero
    · rintro ⟨ht, hs⟩
      rw [ht] at h
      exact absurd hs h.2
  · next h =>
    refine ⟨fun ht => ⟨ht, ?_⟩, fun ht => ht.1⟩
    rw [ht] at h
    exact not_not.1 fun hne => h ⟨Nat.succ_pos t, hne⟩

theorem Copied.linked (h : Copied m lastOb ob₀ ob₀.numBlobs ob)
    (hnew : ∀ i < ob₀.numBlobs, (ob₀.blobs i).trackIndex = none) (hold : NoneLeft ob₀ ob₀.numBlobs) :
    Linked (clearMissing ob) := by
  intro s t
  have hnum : (clearMissing ob).numBlobs = ob₀.numBlobs := h.numBlobs
  rw [clearMissing_tracked, hnum]
  show ob.tracked s = t + 1 ∧ (ob.blobs t).trackIndex = some s ↔ t < _ ∧ (ob.blobs t).trackIndex = some s
  refine and_congr_left fun hs => ⟨fun ht => ?_, fun ht => (h.tracked s t).2 (Or.inl ⟨ht, ?_⟩)⟩
  · rcases (h.tracked s t).1 ht with htakes | hstale
    · exact htakes.1
    · by_contra hge
      rw [h.blobs, if_neg hge] at hs
      exact hold s t hstale (Nat.not_lt.1 hge) hs
  · rw [h.blobs, if_pos ht, copied] at hs
    rcases hleft : m.left t with _ | j
    · rw [hleft] at hs
      exact absurd ((hnew t ht).symm.trans hs) nofun
    · rw [hleft] at hs
      exact ⟨j, rfl, hs⟩

structure Assigned (ob₀ ob : Blobservation) : Prop where
  numBlobs : ob.numBlobs = ob₀.numBlobs
  linked : Linked ob
  blobId : ∀ i, (ob.blobs i).blobId = (ob₀.blobs i).blobId
  trackIndex : ∀ i s, (ob₀.blobs i).trackIndex = some s → (ob.blobs i).trackIndex = some s

theorem findFreeTrack_some {tracked : ℕ → ℕ} (h : findFreeTrack tracked = some s) : tracked s = 0 := by
  simpa using List.find?_some h

theorem putInSlot_self (h : Linked ob) (hi : i < ob.numBlobs) : putInSlot ob i (ob.blobs i).trackIndex = ob := by
  unfold putInSlot
  rw [Function.update_eq_self]
  rcases hslot : (ob.blobs i).trackIndex with _ | t
  · rfl
  · have htracked : ob.tracked t = i + 1 := (h t i).2 ⟨hi, hslot⟩
    dsimp only
    rw [← htracked, Function.update_eq_self]

theorem Linked.putInSlot (h : Linked ob) (hi : i < ob.numBlobs) (hslot : (ob.blobs i).trackIndex = none)
    (hnone : ob.tracked t = 0) : Linked (putInSlot ob i (some t)) := by
  intro s i'
  have hunset : ∀ i', ¬ (i' < ob.numBlobs ∧ (ob.blobs i').trackIndex = some t) := fun i' hset => by
    rw [(h t i').2 hset] at hnone
    cases hnone
  show Function.update ob.tracked t (i + 1) s = i' + 1 ↔ i' < ob.numBlobs ∧
    (Function.update ob.blobs i { ob.blobs i with trackIndex := some t } i').trackIndex = some s
  rw [Function.update_apply, Function.update_apply]
  by_cases heq : i' = i
  · subst heq
    rw [if_pos rfl]
    by_cases hst : s = t
    · subst hst
      simp [hi]
    · rw [if_neg hst, h, hslot]
      simp [Ne.symm hst]
  · rw [if_neg heq]
    by_cases hst : s = t
    · subst hst
      rw [if_pos rfl]
      exact iff_of_false (fun hii => heq (Nat.succ.inj hii).symm) (hunset i')
    · rw [if_neg hst]
      exact h s i'

theorem Assigned.putInSlot (h : Assigned ob₀ ob) (hi : i < ob₀.numBlobs) (hslot : (ob.blobs i).trackIndex = none)
    (hnone : ob.tracked t = 0) : Assigned ob₀ (putInSlot ob i (some t)) := by
  have hblob : ∀ i', (Tracking.putInSlot ob i (some t)).blobs i' =
      if i' = i then { ob.blobs i with trackIndex := some t } else ob.blobs i' := fun i' => Function.update_apply ..
  refine ⟨h.numBlobs, h.linked.putInSlot (h.numBlobs.symm ▸ hi) hslot hnone, fun i' => ?_, fun i' s hs => ?_⟩
  · rw [hblob, ← h.blobId]
    split
    · next heq => rw [heq]
    · rfl
  · have hset := h.trackIndex i' s hs
    have hne : i' ≠ i := fun heq => by
      rw [heq, hslot] at hset
      cases hset
    rw [hblob, if_neg hne, hset]

theorem Assigned.assignTrack (h : Assigned ob₀ ob) (hi : i < ob₀.numBlobs) : Assigned ob₀ (assignTrack ob i) := by
  have hself := putInSlot_self h.linked (h.numBlobs.symm ▸ hi)
  unfold Tracking.assignTrack
  dsimp only
  split
  · next hgets =>
    rcases hfind : findFreeTrack ob.tracked with _ | t
    · rw [← hgets.2, hself]
      exact h
    · exact h.putInSlot hi hgets.2 (findFreeTrack_some hfind)
  · rw [hself]
    exact h

theorem trackBlobs_spec (hm : m.Between ob₀.numBlobs lastOb.numBlobs) (hlinked : Linked lastOb)
    (hfree : SlotsFree m lastOb ob₀.tracked) (hnew : ∀ i < ob₀.numBlobs, (ob₀.blobs i).trackIndex = none)
    (hold : NoneLeft ob₀ ob₀.numBlobs) :
    ∃ ob, Copied m lastOb ob₀ ob₀.numBlobs ob ∧ Assigned (clearMissing ob) (trackBlobs m lastOb ob₀) := by
  have hcopied : Copied m lastOb ob₀ ob₀.numBlobs ((List.range ob₀.numBlobs).foldl (copyMatched m lastOb) ob₀) :=
    foldl_range_keeps (P := fun k ob => Copied m lastOb ob₀ k ob)
      ⟨rfl, fun _ => rfl, fun _ _ => (or_iff_right fun h => nomatch h.1).symm⟩
      fun k hk _ h => h.copyMatched hm hlinked hfree (hnew k hk)
  refine ⟨_, hcopied, ?_⟩
  unfold trackBlobs
  dsimp only
  rw [hcopied.numBlobs]
  refine foldl_range_keeps (P := fun _ ob => Assigned (clearMissing _) ob)
    ⟨rfl, hcopied.linked hnew hold, fun _ => rfl, fun _ _ hs => hs⟩ fun i hi ob h => h.assignTrack ?_
  exact hi.trans_eq hcopied.numBlobs.symm

/-! ## The pool -/

/-- All observations but the one that is in use are in the queue, the last one at its end. -/
structure QueueInv (bw : RiftBlobwatch) : Prop where
  length : bw.observationQ.contents.length = NUM_FRAMES_HISTORY
  nodup : bw.observationQ.contents.Nodup
  last : ∀ l, bw.lastObservation = some l → bw.observationQ.contents.getLast? = some l

def RiftBlobwatch.observed (bw : RiftBlobwatch) (k : ℕ) (frame : List Detected) : Blobservation :=
  (processFrame (bw.observations k) bw.nextBlobId frame).1

/-- The matching of the blobs of a frame; more fuel does not change it. -/
def RiftBlobwatch.Matches (bw : RiftBlobwatch) (k l : ℕ) (frame : List Detected) (m : Closest) : Prop :=
  ∀ more, matchBlobs (SCAN_FUEL + more) bw.maxMatchDistSq (bw.observed k frame) (bw.observations l) = some m

/-- What a frame does: it takes the observation `k` and leaves `ob` in it. -/
structure Pushed (bw : RiftBlobwatch) (frame : List Detected) (k : ℕ) (ob : Blobservation) (t : RiftBlobwatch) :
    Prop where
  peek : bw.observationQ.peek = some k
  other : ∀ l, bw.lastObservation = some l → l ≠ k
  observations : t.observations = Function.update bw.observations k ob
  last : t.lastObservation = some k
  first : bw.lastObservation = none → ob = bw.observed k frame
  matched : ∀ l, bw.lastObservation = some l → ∃ m, bw.Matches k l frame m ∧
    m.Between (bw.observed k frame).numBlobs (bw.observations l).numBlobs ∧
    ob = trackBlobs m (bw.observations l) (bw.observed k frame)
  queue : QueueInv t

theorem create_queueInv (maxMatchDist : ℚ) : QueueInv (riftBlobwatchCreate maxMatchDist) := by
  have hcontents : (riftBlobwatchCreate maxMatchDist).observationQ.contents = [0, 1, 2, 3, 4] := rfl
  refine ⟨congrArg List.length hcontents, ?_, fun _ h => nomatch h⟩
  rw [hcontents]
  decide

variable {bw : RiftBlobwatch} {frame : List Detected}

theorem pushFrame_spec (h : QueueInv bw) (frame : List Detected) :
    ∃ k ob t, pushFrame bw frame = some t ∧ Pushed bw frame k ob t := by
  have hne : bw.observationQ.isEmpty = false := Bool.eq_false_iff.2 fun hempty => by
    have hlen := h.length
    rw [Ring.isEmpty_iff.1 hempty] at hlen
    cases hlen
  obtain ⟨k, q, hpop, hpeek⟩ := Ring.exists_pop hne
  have hcontents := Ring.contents_pop hpop
  have hlength := h.length
  have hnodup := h.nodup
  rw [hcontents] at hlength hnodup
  have hsize : q.contents.length = 4 := Nat.succ.inj hlength
  obtain ⟨q', hpush⟩ : ∃ q', q.push k = some q' := Option.ne_none_iff_exists'.1 fun hfull => by
    have hfull := Ring.push_eq_none_iff.1 hfull
    rw [← Ring.length_contents, hsize] at hfull
    cases hfull
  have hcontents' := Ring.contents_push hpush
  have hother : ∀ l, bw.lastObservation = some l → l ≠ k := by
    rintro l hl rfl
    have hlast := h.last l hl
    rw [hcontents] at hlast
    have hmem : l ∈ q.contents := by
      cases hq : q.contents with
      | nil => rw [hq] at hsize; cases hsize
      | cons x xs =>
        rw [hq, List.getLast?_cons_cons] at hlast
        exact List.mem_of_getLast? hlast
    exact (List.nodup_cons.1 hnodup).1 hmem
  -- the observation goes to the end of the queue
  let after (ob : Blobservation) : RiftBlobwatch :=
    { bw with
      nextBlobId := (processFrame (bw.observations k) bw.nextBlobId frame).2
      observations := Function.update bw.observations k ob
      observationQ := q'
      lastObservation := some k }
  have hqueue : ∀ ob, QueueInv (after ob) := by
    refine fun ob => ⟨?_, ?_, fun l hl => ?_⟩
    · show q'.contents.length = _
      rw [hcontents', List.length_append, hsize]
      rfl
    · show q'.contents.Nodup
      rw [hcontents']
      exact (List.perm_append_singleton k _).nodup_iff.2 hnodup
    · show q'.contents.getLast? = some l
      rw [hcontents', List.getLast?_concat]
      exact hl
  rcases hl : bw.lastObservation with _ | l
  · refine ⟨k, bw.observed k frame, after _, ?_, hpeek, by simp [hl], rfl, rfl, fun _ => rfl, by simp [hl], hqueue _⟩
    simp only [pushFrame, blobwatchProcess, hpop, hl, hpush, Option.bind_some, Option.map_some]
    rfl
  · obtain ⟨m, hm, hbetween⟩ := matchBlobs_spec bw.maxMatchDistSq (bw.observed k frame) (bw.observations l)
    refine ⟨k, trackBlobs m (bw.observations l) (bw.observed k frame), after _, ?_, hpeek, hother, rfl, rfl,
      by simp [hl], ?_, hqueue _⟩
    · have hm := hm 0
      simp only [RiftBlobwatch.observed] at hm
      simp only [pushFrame, blobwatchProcess, hpop, hl, Option.bind_some]
      rw [hm]
      simp only [Option.map_some, Option.bind_some, hpush]
      rfl
    · intro l' hl'
      obtain rfl : l = l' := Option.some.inj (hl.symm.trans hl')
      exact ⟨m, hm, hbetween, rfl⟩

/-! ## Runs -/

def DistinctIds (ob : Blobservation) : Prop :=
  ∀ i < ob.numBlobs, ∀ j < ob.numBlobs, (ob.blobs i).blobId = (ob.blobs j).blobId → i = j

/-- A frame is processed, and the matching with the frame before is found and is one to one. -/
def MatchesOneToOne (bw : RiftBlobwatch) (frame : List Detected) : Prop :=
  ∃ k t, pushFrame bw frame = some t ∧ t.lastObservation = some k ∧ ∀ l, bw.lastObservation = some l →
    ∃ m, bw.Matches k l frame m ∧ ∀ i i' j, m.left i = some j → m.left i' = some j → i = i'

/-- After a frame with a frame before: different ids, slots that are kept, and a table of them. -/
def KeepsTracks (bw : RiftBlobwatch) (frame : List Detected) : Prop :=
  ∀ t k l m, pushFrame bw frame = some t → t.lastObservation = some k → bw.lastObservation = some l →
    bw.Matches k l frame m →
    DistinctIds (t.observations k) ∧
    (∀ i j s, m.left i = some j → ((bw.observations l).blobs j).trackIndex = some s →
      ((t.observations k).blobs i).trackIndex = some s) ∧
    Linked (t.observations k)

/-- Nothing shows of the last use of the observation that a frame gets: previous blobs that are matched have no slot that
its table still has set, and it names no blob with its slot past those of the frame. The ids of matched blobs are not
given anew to others. -/
structure Undisturbed (bw : RiftBlobwatch) (frame : List Detected) : Prop where
  slots : ∀ k l m, bw.observationQ.peek = some k → bw.lastObservation = some l → bw.Matches k l frame m →
    SlotsFree m (bw.observations l) (bw.observations k).tracked
  table : ∀ k, bw.observationQ.peek = some k → bw.lastObservation ≠ none → NoneLeft (bw.observations k) (count frame)
  ids : ∀ k l m, bw.observationQ.peek = some k → bw.lastObservation = some l → bw.Matches k l frame m →
    ∀ i' j, m.left i' = some j → ∀ i < count frame, m.left i = none →
      ((bw.observations l).blobs j).blobId ≠ bw.nextBlobId + UInt32.ofNat i

structure TracksInv (bw : RiftBlobwatch) : Prop where
  queue : QueueInv bw
  linked : ∀ k, Linked (bw.observations k)
  unused : bw.lastObservation = none → ∀ k s, (bw.observations k).tracked s = 0
  ids : ∀ l, bw.lastObservation = some l → DistinctIds (bw.observations l)

theorem create_tracksInv (maxMatchDist : ℚ) : TracksInv (riftBlobwatchCreate maxMatchDist) where
  queue := create_queueInv maxMatchDist
  linked _ _ _ := iff_of_false nofun fun h => nomatch h.1
  unused _ _ _ := rfl
  ids _ h := nomatch h

theorem nextId_inj {a : UInt32} (hi : i < count frame) (hj : j < count frame)
    (h : a + UInt32.ofNat i = a + UInt32.ofNat j) : i = j := by
  have hle : count frame ≤ 250 := Nat.min_le_right _ _
  have hsame := congrArg UInt32.toNat ((UInt32.add_right_inj a).1 h)
  rwa [UInt32.toNat_ofNat_of_lt' (by show i < 2 ^ 32; omega), UInt32.toNat_ofNat_of_lt' (by show j < 2 ^ 32; omega)]
    at hsame

theorem Pushed.tracked (h : TracksInv bw) (hok : Undisturbed bw frame) {t : RiftBlobwatch} {l : ℕ}
    (hp : Pushed bw frame k ob t) (hl : bw.lastObservation = some l) (hm : bw.Matches k l frame m) :
    DistinctIds ob ∧ (∀ i j s, m.left i = some j → ((bw.observations l).blobs j).trackIndex = some s →
      (ob.blobs i).trackIndex = some s) ∧ Linked ob := by
  obtain ⟨m', hm', hbetween, hob⟩ := hp.matched l hl
  obtain rfl : m' = m := Option.some.inj ((hm' 0).symm.trans (hm 0))
  have hstored := processFrame_stored (bw.observations k) bw.nextBlobId frame
  have hfree : SlotsFree m' (bw.observations l) (bw.observed k frame).tracked :=
    hstored.tracked ▸ hok.slots k l m' hp.peek hl hm
  have hnew : ∀ i < (bw.observed k frame).numBlobs, ((bw.observed k frame).blobs i).trackIndex = none :=
    fun i hi => hstored.trackIndex i (hstored.numBlobs ▸ hi)
  have hold : NoneLeft (bw.observed k frame) (bw.observed k frame).numBlobs := by
    intro s t ht hge
    have hge : count frame ≤ t := hstored.numBlobs ▸ hge
    rw [RiftBlobwatch.observed, hstored.others t hge]
    rw [RiftBlobwatch.observed, hstored.tracked] at ht
    exact hok.table k hp.peek (by rw [hl]; exact Option.some_ne_none l) s t ht hge
  obtain ⟨ob₁, hcopied, hassigned⟩ := trackBlobs_spec hbetween (h.linked l) hfree hnew hold
  rw [← hob] at hassigned
  have hnum : ob.numBlobs = (bw.observed k frame).numBlobs := hassigned.numBlobs.trans hcopied.numBlobs
  have hcount : (bw.observed k frame).numBlobs = count frame := hstored.numBlobs
  have hblob : ∀ i < ob.numBlobs, ob₁.blobs i = copied m' (bw.observations l) i ((bw.observed k frame).blobs i) :=
    fun i hi => by rw [hcopied.blobs, if_pos (hnum ▸ hi)]
  have hnewId : ∀ i < ob.numBlobs, m'.left i = none → (ob.blobs i).blobId = bw.nextBlobId + UInt32.ofNat i := by
    intro i hi hleft
    rw [hassigned.blobId, show (clearMissing ob₁).blobs = ob₁.blobs from rfl, hblob i hi, copied, hleft]
    exact hstored.blobId i (by rw [← hcount, ← hnum]; exact hi)
  have hcopiedId : ∀ i < ob.numBlobs, ∀ j, m'.left i = some j →
      (ob.blobs i).blobId = ((bw.observations l).blobs j).blobId := by
    intro i hi j hleft
    rw [hassigned.blobId, show (clearMissing ob₁).blobs = ob₁.blobs from rfl, hblob i hi, copied, hleft]
    rfl
  have hlt : ∀ i < ob.numBlobs, i < count frame := fun i hi => by rwa [← hcount, ← hnum]
  refine ⟨fun i hi i' hi' hid => ?_, fun i j s hleft hs => ?_, hassigned.linked⟩
  · -- both matched, one of them, or both new
    rcases hleft : m'.left i with _ | j <;> rcases hleft' : m'.left i' with _ | j'
    · rw [hnewId i hi hleft, hnewId i' hi' hleft'] at hid
      exact nextId_inj (hlt i hi) (hlt i' hi') hid
    · rw [hnewId i hi hleft, hcopiedId i' hi' j' hleft'] at hid
      exact absurd hid.symm (hok.ids k l m' hp.peek hl hm i' j' hleft' i (hlt i hi) hleft)
    · rw [hcopiedId i hi j hleft, hnewId i' hi' hleft'] at hid
      exact absurd hid (hok.ids k l m' hp.peek hl hm i j hleft i' (hlt i' hi') hleft')
    · rw [hcopiedId i hi j hleft, hcopiedId i' hi' j' hleft'] at hid
      have hjj := h.ids l hl j (hbetween.within i j hleft).2 j' (hbetween.within i' j' hleft').2 hid
      subst hjj
      exact hbetween.twoSided.unique hleft hleft'
  · have hi : i < ob.numBlobs := hnum ▸ (hbetween.within i j hleft).1
    refine hassigned.trackIndex i s ?_
    rw [show (clearMissing ob₁).blobs = ob₁.blobs from rfl, hblob i hi, copied, hleft]
    exact hs

theorem TracksInv.pushFrame (h : TracksInv bw) (hok : Undisturbed bw frame) {t : RiftBlobwatch}
    (ht : pushFrame bw frame = some t) : TracksInv t := by
  obtain ⟨k, ob, t', ht', hp⟩ := pushFrame_spec h.queue frame
  obtain rfl : t' = t := Option.some.inj (ht'.symm.trans ht)
  have hstored := processFrame_stored (bw.observations k) bw.nextBlobId frame
  -- a first frame finds zeroed memory
  have hob : DistinctIds ob ∧ Linked ob := by
    rcases hl : bw.lastObservation with _ | l
    · rw [hp.first hl]
      refine ⟨fun i hi j hj hid => ?_, fun s i => ?_⟩
      · have hi' : i < count frame := hstored.numBlobs ▸ hi
        have hj' : j < count frame := hstored.numBlobs ▸ hj
        exact nextId_inj hi' hj' ((hstored.blobId i hi').symm.trans (hid.trans (hstored.blobId j hj')))
      · have hzero : (bw.observed k frame).tracked s = 0 := (congrFun hstored.tracked s).trans (h.unused hl k s)
        rw [hzero]
        refine iff_of_false nofun fun ⟨hi, hs⟩ => ?_
        have hnone : ((bw.observed k frame).blobs i).trackIndex = none :=
          hstored.trackIndex i (hstored.numBlobs ▸ hi)
        rw [hnone] at hs
        cases hs
    · obtain ⟨m, hm, -, -⟩ := hp.matched l hl
      obtain ⟨hids, -, hlinked⟩ := hp.tracked h hok hl hm
      exact ⟨hids, hlinked⟩
  refine ⟨hp.queue, fun k' => ?_, fun hnone => ?_, fun l hl => ?_⟩
  · rw [hp.observations, Function.update_apply]
    split
    · exact hob.2
    · exact h.linked k'
  · rw [hp.last] at hnone
    cases hnone
  · rw [hp.last] at hl
    cases hl
    rw [hp.observations, Function.update_self]
    exact hob.1

/-- In every run each frame is processed and matched one to one with the frame before. As long as no frame is disturbed
by the last use of its observation, ids are different, slots are kept, and the table and the blobs fit. -/
theorem frames_keepTracks (maxMatchDist : ℚ) (frames : List (List Detected)) :
    Along Tracking.pushFrame MatchesOneToOne (riftBlobwatchCreate maxMatchDist) frames ∧
      (Along Tracking.pushFrame Undisturbed (riftBlobwatchCreate maxMatchDist) frames →
        Along Tracking.pushFrame KeepsTracks (riftBlobwatchCreate maxMatchDist) frames) := by
  constructor
  · refine along_of_inv' (I := QueueInv) (fun bw frame h => ?_) (fun bw frame t h ht => ?_)
      (create_queueInv maxMatchDist) frames
    · obtain ⟨k, ob, t, ht, hp⟩ := pushFrame_spec h frame
      refine ⟨k, t, ht, hp.last, fun l hl => ?_⟩
      obtain ⟨m, hm, hbetween, -⟩ := hp.matched l hl
      exact ⟨m, hm, fun i i' j => hbetween.twoSided.unique⟩
    · obtain ⟨k, ob, t', ht', hp⟩ := pushFrame_spec h frame
      cases ht'.symm.trans ht
      exact hp.queue
  · refine along_of_inv (I := TracksInv) (fun bw frame h hok => ?_) (fun bw frame t h hok ht => h.pushFrame hok ht)
      (create_tracksInv maxMatchDist)
    intro t k l m ht hk hl hm
    obtain ⟨k', ob, t', ht', hp⟩ := pushFrame_spec h.queue frame
    cases ht'.symm.trans ht
    obtain rfl : k' = k := Option.some.inj (hp.last.symm.trans hk)
    have hob : t.observations k' = ob := by rw [hp.observations, Function.update_self]
    rw [hob]
    exact hp.tracked h hok hl hm

def led : Detected := ⟨10, 10, 200, 9, 9, 3, 3, 9⟩

def ledVanishes : List (List Detected) := [[led], [led], [], [], [], []]

/-- The observation of the second frame is used again, and its table still says that the LED is tracked. -/
theorem ledVanishes_notKept : ¬ Along pushFrame KeepsTracks (riftBlobwatchCreate 0) (ledVanishes ++ [[]]) := by
  intro h
  obtain ⟨s, hs⟩ : ∃ s, ledVanishes.foldlM pushFrame (riftBlobwatchCreate 0) = some s :=
    Option.isSome_iff_exists.1 (by decide +kernel)
  have hreach := reaches_iff_foldlM.2 hs
  have hkeeps : KeepsTracks s [] := h.at_action hreach
  have hqueue : QueueInv s := inv_of_reaches (fun bw frame t hbw ht => by
    obtain ⟨k, ob, t', ht', hp⟩ := pushFrame_spec hbw frame
    cases ht'.symm.trans ht
    exact hp.queue) (create_queueInv 0) hreach
  have hlast : s.lastObservation = some 0 := by
    have hrun : (ledVanishes.foldlM pushFrame (riftBlobwatchCreate 0)).bind (·.lastObservation) = some 0 := by
      decide +kernel
    rwa [hs] at hrun
  have hafter : (pushFrame s []).map (fun t => (t.lastObservation, (t.observations 1).numBlobs,
      (t.observations 1).tracked 0)) = some (some 1, 0, 1) := by
    have hrun : ((ledVanishes.foldlM pushFrame (riftBlobwatchCreate 0)).bind fun s => pushFrame s []).map
        (fun t => (t.lastObservation, (t.observations 1).numBlobs, (t.observations 1).tracked 0)) =
          some (some 1, 0, 1) := by decide +kernel
    rwa [hs] at hrun
  obtain ⟨k, ob, t, ht, hp⟩ := pushFrame_spec hqueue []
  rw [ht] at hafter
  obtain ⟨hk, hnum, hslot⟩ : t.lastObservation = some 1 ∧ (t.observations 1).numBlobs = 0 ∧
      (t.observations 1).tracked 0 = 1 := by simpa using hafter
  cases hp.last.symm.trans hk
  obtain ⟨m, hm, -, -⟩ := hp.matched 0 hlast
  -- slot 0 names the first blob of a frame without blobs
  have hlt := (((hkeeps t 1 0 m ht hk hlast hm).2.2 0 0).1 hslot).1
  rw [hnum] at hlt
  exact absurd hlt (Nat.lt_irrefl 0)

end AugmentedInsanity.Tracking
