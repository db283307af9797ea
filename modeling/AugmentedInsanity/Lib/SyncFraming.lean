/-
Packets on a line of single bits. A packet is a run of more than `w` zeros and a one, then `n` words of `w` bits, with
a one after each word. No packet holds the run that starts one, so a receiver that was switched on in the middle of
anything finds the next packet: `captured_iff` says what it holds by the bits alone, and `deliveries_packets` that
packets in a row are delivered once each, whatever came before.
-/
import Mathlib.Data.List.Infix
import Mathlib.Tactic.Ring

namespace AugmentedInsanity.SyncFraming

variable (w n : ℕ)

/-! ## Packets -/

def preamble : List Bool := List.replicate (w + 1) false ++ [true]

/-- A word, and the one after it. -/
def frameWords (words : List (List Bool)) : List Bool := words.flatMap (· ++ [true])

def packet (words : List (List Bool)) : List Bool := preamble w ++ frameWords words

/-- The bits between the words are ones. -/
def InSync (bits : List Bool) : Prop := ∀ i, i < bits.length → i % (w + 1) = w → bits[i]? = some true

/-- `n` words of `w` bits. -/
structure Words (words : List (List Bool)) : Prop where
  count : words.length = n
  width : ∀ word ∈ words, word.length = w

/-! ## The receiver -/

/-- The zeros seen last, and the bits since the start of the packet, if one is being read. -/
structure Receiver where
  zeros : ℕ
  captured : Option (List Bool)
  deriving DecidableEq

def Receiver.reset : Receiver := ⟨0, none⟩

/-- One bit more. After the last word, and where a one is missing, the reading ends. -/
def capture (c : List Bool) (b : Bool) : Option (List Bool) :=
  if n * (w + 1) ≤ c.length then none
  else if c.length % (w + 1) = w ∧ b = false then none
  else some (c ++ [b])

def Receiver.step (r : Receiver) (b : Bool) : Receiver where
  zeros := if b then 0 else r.zeros + 1
  captured := if b = true ∧ w < r.zeros then some [] else r.captured.bind (capture w n · b)

/-- The bits of a packet that has just been read to its end. -/
def Receiver.delivers (r : Receiver) : Option (List Bool) := r.captured.filter (·.length = n * (w + 1))

def run (r : Receiver) (bits : List Bool) : Receiver := bits.foldl (Receiver.step w n) r

/-- What is delivered on the way. -/
def deliveries (r : Receiver) : List Bool → List (List Bool)
  | [] => []
  | b :: bits =>
    let r' := r.step w n b
    (r'.delivers w n).toList ++ deliveries r' bits

@[simp] theorem run_nil (r : Receiver) : run w n r [] = r := rfl

@[simp] theorem run_cons (r : Receiver) (b : Bool) (bits : List Bool) :
    run w n r (b :: bits) = run w n (r.step w n b) bits := rfl

theorem run_snoc (r : Receiver) (l : List Bool) (b : Bool) :
    run w n r (l ++ [b]) = (run w n r l).step w n b := by simp [run]

theorem deliveries_append (r : Receiver) (l m : List Bool) :
    deliveries w n r (l ++ m) = deliveries w n r l ++ deliveries w n (run w n r l) m := by
  induction l generalizing r with
  | nil => simp [deliveries]
  | cons b l ih => simp [deliveries, ih]

variable {w n} {c : List Bool}

/-! ## Words that are in sync -/

theorem InSync.nil : InSync w [] := by simp [InSync]

theorem InSync.snoc {b : Bool} (h : InSync w c) (hb : c.length % (w + 1) = w → b = true) : InSync w (c ++ [b]) := by
  intro i hi hmod
  simp only [List.length_append, List.length_singleton] at hi
  rcases Nat.lt_succ_iff_lt_or_eq.1 hi with hi | rfl
  · rw [List.getElem?_append_left hi]
    exact h i hi hmod
  · simp [hb hmod]

theorem InSync.of_append {c d : List Bool} (h : InSync w (c ++ d)) : InSync w c := by
  intro i hi hmod
  have := h i (by simp; omega) hmod
  rwa [List.getElem?_append_left hi] at this

theorem InSync.last {b : Bool} (h : InSync w (c ++ [b])) (hmod : c.length % (w + 1) = w) : b = true := by
  have := h c.length (by simp) hmod
  simpa using this

theorem frameWords_cons (word : List Bool) (words : List (List Bool)) :
    frameWords (word :: words) = word ++ true :: frameWords words := by simp [frameWords]

variable {words : List (List Bool)} {r : Receiver}

theorem length_frameWords (h : ∀ word ∈ words, word.length = w) :
    (frameWords words).length = words.length * (w + 1) := by
  induction words with
  | nil => simp [frameWords]
  | cons word words ih =>
    have hw := h word (by simp)
    have ih := ih fun v hv => h v (by simp [hv])
    simp only [frameWords_cons, List.length_append, List.length_cons, ih, hw]
    ring

/-- Bits in sync that fill whole words are framed words. -/
theorem exists_words {bits : List Bool} (hc : InSync w bits) (hlen : bits.length = n * (w + 1)) :
    ∃ words, Words w n words ∧ bits = frameWords words := by
  induction n generalizing bits with
  | zero =>
    have : bits = [] := List.length_eq_zero_iff.1 (by simpa using hlen)
    exact ⟨[], ⟨rfl, by simp⟩, by simp [this, frameWords]⟩
  | succ n ih =>
    have hlen' : bits.length = n * (w + 1) + (w + 1) := by rw [hlen]; ring
    have hdrop : InSync w (bits.drop (w + 1)) := by
      intro i hi hmod
      rw [List.getElem?_drop]
      rw [List.length_drop] at hi
      exact hc (w + 1 + i) (by omega) (by simpa using hmod)
    obtain ⟨words, hwords, heq⟩ := ih hdrop (by simp; omega)
    have hlt : w < bits.length := by omega
    have hone : bits[w] = true := by
      have := hc w hlt (Nat.mod_eq_of_lt (by omega))
      simpa [List.getElem?_eq_getElem hlt] using this
    refine ⟨bits.take w :: words, ⟨by simp [hwords.count], ?_⟩, ?_⟩
    · intro word hword
      rcases List.mem_cons.1 hword with rfl | hword
      · simp; omega
      · exact hwords.width word hword
    · rw [frameWords_cons, ← heq]
      conv_lhs => rw [← List.take_append_drop w bits, List.drop_eq_getElem_cons hlt, hone]

theorem inSync_frameWords (h : ∀ word ∈ words, word.length = w) : InSync w (frameWords words) := by
  induction words with
  | nil => exact InSync.nil
  | cons word words ih =>
    have hw := h word (by simp)
    have ih := ih fun v hv => h v (by simp [hv])
    intro i hi hmod
    rw [frameWords_cons] at hi ⊢
    simp only [List.length_append, List.length_cons] at hi
    rcases lt_trichotomy i w with hlt | rfl | hgt
    · rw [Nat.mod_eq_of_lt (by omega)] at hmod
      omega
    · simp [← hw]
    · obtain ⟨k, rfl⟩ : ∃ k, i = w + 1 + k := ⟨i - (w + 1), by omega⟩
      have hk : (w + 1 + k - word.length) = k + 1 := by omega
      rw [List.getElem?_append_right (by omega), hk, List.getElem?_cons_succ]
      exact ih k (by omega) (by simpa using hmod)

/-! ## What the receiver holds -/

/-- The last bits are a preamble and `c`, which is in sync and no longer than a packet. -/
structure Reading (w n : ℕ) (bits c : List Bool) : Prop where
  le : c.length ≤ n * (w + 1)
  sync : InSync w c
  suffix : preamble w ++ c <:+ bits

/-- The zeros at the end. -/
def trailingZeros (bits : List Bool) : ℕ := (bits.reverse.takeWhile (! ·)).length

theorem trailingZeros_snoc (bits : List Bool) (b : Bool) :
    trailingZeros (bits ++ [b]) = if b then 0 else trailingZeros bits + 1 := by
  cases b <;> simp [trailingZeros]

theorem zeros_run (bits : List Bool) : (run w n .reset bits).zeros = trailingZeros bits := by
  induction bits using List.reverseRecOn with
  | nil => simp [trailingZeros, Receiver.reset]
  | append_singleton bits b ih => simp [run_snoc, trailingZeros_snoc, Receiver.step, ih]

theorem replicate_suffix_iff (bits : List Bool) (k : ℕ) :
    List.replicate k false <:+ bits ↔ k ≤ trailingZeros bits := by
  induction bits using List.reverseRecOn generalizing k with
  | nil => cases k <;> simp [trailingZeros, List.replicate_succ]
  | append_singleton bits b ih =>
    rw [trailingZeros_snoc]
    cases k with
    | zero => simp
    | succ k =>
      rw [List.replicate_succ', List.suffix_concat_iff]
      constructor
      · rintro (h | ⟨l, hl, hsuffix⟩)
        · simp at h
        · obtain ⟨rfl, rfl⟩ := List.concat_inj.1 (by simpa only [List.concat_eq_append] using hl)
          simpa [ih] using hsuffix
      · intro h
        cases b
        · exact Or.inr ⟨_, rfl, (ih k).2 (by simpa using h)⟩
        · simp at h

theorem succ_mod {k : ℕ} (h : k % (w + 1) ≠ w) : (k + 1) % (w + 1) = k % (w + 1) + 1 := by
  have hlt : k % (w + 1) < w + 1 := Nat.mod_lt _ (by omega)
  conv_lhs => rw [← Nat.div_add_mod k (w + 1), Nat.add_assoc, Nat.mul_add_mod]
  exact Nat.mod_eq_of_lt (by omega)

/-- Bits in sync end with fewer zeros than a preamble has. -/
theorem trailingZeros_of_sync (bits : List Bool) (hc : InSync w c) :
    trailingZeros (bits ++ [true] ++ c) ≤ c.length % (w + 1) := by
  induction c using List.reverseRecOn with
  | nil => simp [trailingZeros]
  | append_singleton c b ih =>
    have ih := ih hc.of_append
    rw [← List.append_assoc, trailingZeros_snoc]
    cases b with
    | true => simp
    | false =>
      have hmod : c.length % (w + 1) ≠ w := fun h => by simpa using hc.last h
      have hlt : c.length % (w + 1) < w + 1 := Nat.mod_lt _ (by omega)
      simp only [List.length_append, List.length_singleton, succ_mod hmod, Bool.false_eq_true, if_false]
      omega

theorem Reading.zeros_le {bits c : List Bool} (h : Reading w n bits c) : trailingZeros bits ≤ w := by
  obtain ⟨pre, rfl⟩ := h.suffix
  have hle := trailingZeros_of_sync (pre ++ List.replicate (w + 1) false) h.sync
  have hlt : c.length % (w + 1) < w + 1 := Nat.mod_lt _ (by omega)
  simp only [preamble, List.append_assoc] at hle ⊢
  omega

theorem reading_nil_iff (bits : List Bool) (b : Bool) :
    Reading w n (bits ++ [b]) [] ↔ b = true ∧ w < trailingZeros bits := by
  have hsuffix : preamble w ++ [] <:+ bits ++ [b] ↔ b = true ∧ w < trailingZeros bits := by
    rw [List.append_nil, preamble, List.suffix_concat_iff]
    constructor
    · rintro (h | ⟨l, hl, hl'⟩)
      · simp at h
      · obtain ⟨rfl, rfl⟩ := List.concat_inj.1 (by simpa only [List.concat_eq_append] using hl)
        exact ⟨rfl, (replicate_suffix_iff _ _).1 hl'⟩
    · rintro ⟨rfl, h⟩
      exact Or.inr ⟨_, rfl, (replicate_suffix_iff _ _).2 h⟩
  constructor
  · intro h
    exact hsuffix.1 h.suffix
  · intro h
    exact ⟨by simp, InSync.nil, hsuffix.2 h⟩

theorem reading_snoc_iff (bits c : List Bool) (b b' : Bool) :
    Reading w n (bits ++ [b]) (c ++ [b']) ↔
      b' = b ∧ Reading w n bits c ∧ c.length < n * (w + 1) ∧ (c.length % (w + 1) = w → b = true) := by
  constructor
  · intro h
    have hle := h.le
    rw [List.length_append, List.length_singleton] at hle
    have hsuffix := h.suffix
    rw [← List.append_assoc, List.suffix_concat_iff] at hsuffix
    rcases hsuffix with hnil | ⟨l, hl, hsuffix⟩
    · simp at hnil
    · obtain ⟨rfl, rfl⟩ := List.concat_inj.1 (by simpa only [List.concat_eq_append] using hl)
      exact ⟨rfl, ⟨by omega, h.sync.of_append, hsuffix⟩, by omega, h.sync.last⟩
  · rintro ⟨rfl, h, hlt, hb⟩
    refine ⟨by simp; omega, h.sync.snoc hb, ?_⟩
    rw [← List.append_assoc, List.suffix_concat_iff]
    exact Or.inr ⟨_, rfl, h.suffix⟩

theorem capture_eq_some_iff {c c' : List Bool} {b : Bool} :
    capture w n c b = some c' ↔ c' = c ++ [b] ∧ c.length < n * (w + 1) ∧ (c.length % (w + 1) = w → b = true) := by
  unfold capture
  split
  · simp; omega
  · split
    · next h => simp [h]
    · next h => cases b <;> simp_all [eq_comm]

/-- The receiver holds `c` exactly when the bits so far end with the start of a packet that goes on with `c`. -/
theorem captured_iff (bits c : List Bool) :
    (run w n .reset bits).captured = some c ↔ Reading w n bits c := by
  induction bits using List.reverseRecOn generalizing c with
  | nil =>
    constructor
    · simp [Receiver.reset]
    · intro h
      have := h.suffix
      simp [preamble] at this
  | append_singleton bits b ih =>
    rw [run_snoc]
    simp only [Receiver.step, zeros_run]
    rcases List.eq_nil_or_concat c with rfl | ⟨c, b', rfl⟩
    · rw [reading_nil_iff]
      split
      · next h => simp [h]
      · next h =>
        -- a bit that is captured is never the start of a packet
        simp only [h, iff_false, Option.bind_eq_some_iff, capture_eq_some_iff]
        rintro ⟨c, -, hnil, -⟩
        simp at hnil
    · rw [List.concat_eq_append, reading_snoc_iff]
      split
      · next h =>
        constructor
        · simp
        · rintro ⟨-, hread, -⟩
          have := hread.zeros_le
          omega
      · simp only [Option.bind_eq_some_iff, capture_eq_some_iff, ih]
        constructor
        · rintro ⟨c, hread, heq, hlt, hb⟩
          obtain ⟨rfl, rfl⟩ := List.concat_inj.1 (by simpa only [List.concat_eq_append] using heq)
          exact ⟨rfl, hread, hlt, hb⟩
        · rintro ⟨rfl, hread, hlt, hb⟩
          exact ⟨c, hread, rfl, hlt, hb⟩

/-- A packet is delivered with its last bit, and with no other. -/
theorem delivers_iff (bits c : List Bool) :
    (run w n .reset bits).delivers w n = some c ↔ ∃ words, Words w n words ∧ c = frameWords words ∧ packet w words <:+ bits := by
  rw [Receiver.delivers, Option.filter_eq_some_iff, captured_iff]
  constructor
  · rintro ⟨hread, hlen⟩
    obtain ⟨words, hwords, rfl⟩ := exists_words hread.sync (of_decide_eq_true hlen)
    exact ⟨words, hwords, rfl, hread.suffix⟩
  · rintro ⟨words, hwords, rfl, hsuffix⟩
    have hlen : (frameWords words).length = n * (w + 1) := by rw [length_frameWords hwords.width, hwords.count]
    exact ⟨⟨hlen.le, inSync_frameWords hwords.width, hsuffix⟩, by simp [hlen]⟩

/-! ## Packets after anything -/

/-- A preamble starts a packet whatever the receiver was in. -/
theorem run_preamble (r : Receiver) : run w n r (preamble w) = ⟨0, some []⟩ := by
  have hzeros (k : ℕ) : (run w n r (List.replicate k false)).zeros = r.zeros + k := by
    induction k with
    | zero => rfl
    | succ k ih => simp [List.replicate_succ', run_snoc, Receiver.step, ih, Nat.add_assoc]
  rw [preamble, run_snoc]
  simp only [Receiver.step, hzeros, true_and, if_true]
  rw [if_pos (by omega)]

/-- No packet ends with a zero. -/
theorem deliveries_zeros (r : Receiver) (k : ℕ) : deliveries w n r (List.replicate k false) = [] := by
  induction k generalizing r with
  | zero => rfl
  | succ k ih =>
    have hnone : (r.step w n false).delivers w n = none := by
      rw [Receiver.delivers, Option.filter_eq_none_iff]
      intro c hc
      simp only [Receiver.step, Bool.false_eq_true, false_and, if_false, Option.bind_eq_some_iff,
        capture_eq_some_iff] at hc
      obtain ⟨d, -, rfl, -, hmod⟩ := hc
      intro hlen
      have hlen : d.length + 1 = n * (w + 1) := by simpa using hlen
      obtain ⟨m, rfl⟩ : ∃ m, n = m + 1 := Nat.exists_eq_succ_of_ne_zero (by rintro rfl; simp at hlen)
      have hd : d.length = m * (w + 1) + w := by
        rw [Nat.succ_mul] at hlen
        omega
      have : d.length % (w + 1) = w := by
        rw [hd, Nat.mul_add_mod_self_right]
        exact Nat.mod_eq_of_lt (by omega)
      simpa using hmod this
    simp [List.replicate_succ, deliveries, hnone, ih]

/-- Fewer zeros were seen last than bits of the word. -/
def Receiver.Sound (w : ℕ) (r : Receiver) : Prop := ∀ c, r.captured = some c → r.zeros ≤ c.length % (w + 1)

theorem Receiver.Sound.le (h : r.Sound w) (hc : r.captured = some c) : r.zeros ≤ w := by
  have hlt : c.length % (w + 1) < w + 1 := Nat.mod_lt _ (by omega)
  have := h c hc
  omega

theorem Receiver.Sound.step (h : r.Sound w) (b : Bool) : (r.step w n b).Sound w := by
  intro c hc
  cases b with
  | true => simp [Receiver.step]
  | false =>
    simp only [Receiver.step, Bool.false_eq_true, false_and, if_false, Option.bind_eq_some_iff,
      capture_eq_some_iff] at hc ⊢
    obtain ⟨d, hd, rfl, -, hmod⟩ := hc
    have hmod : d.length % (w + 1) ≠ w := fun h => by simpa using hmod h
    have hle := h d hd
    simp only [List.length_append, List.length_singleton, succ_mod hmod]
    omega

theorem deliveries_captured {c d : List Bool} (hd : d ≠ []) (hsync : InSync w (c ++ d))
    (hlen : (c ++ d).length = n * (w + 1)) (hr : r.captured = some c) (hsound : r.Sound w) :
    deliveries w n r d = [c ++ d] := by
  induction d generalizing c r with
  | nil => exact absurd rfl hd
  | cons b d ih =>
    have hsync' : InSync w (c ++ [b] ++ d) := by simpa using hsync
    have hlen' : (c ++ [b] ++ d).length = n * (w + 1) := by simpa using hlen
    have hstep : (r.step w n b).captured = some (c ++ [b]) := by
      have hzeros := hsound.le hr
      simp only [Receiver.step, hr, Option.bind_some]
      rw [if_neg (by omega), capture_eq_some_iff]
      exact ⟨rfl, by simp at hlen; omega, hsync'.of_append.last⟩
    simp only [deliveries, Receiver.delivers, hstep]
    rcases eq_or_ne d [] with rfl | hd
    · have hdone : (c ++ [b]).length = n * (w + 1) := by simpa using hlen
      simp only [Option.filter_some, hdone, decide_true, if_true, Option.toList_some, deliveries]
      rfl
    · have hmore : (c ++ [b]).length ≠ n * (w + 1) := by
        have := List.length_pos_iff.2 hd
        rw [List.length_append] at hlen'
        omega
      rw [ih hd hsync' hlen' hstep (hsound.step b)]
      simpa [Option.filter_some] using hmore

theorem deliveries_packet [NeZero n] (r : Receiver) (h : Words w n words) :
    deliveries w n r (packet w words) = [frameWords words] := by
  have hlen : (frameWords words).length = n * (w + 1) := by rw [length_frameWords h.width, h.count]
  have hpos : 0 < (frameWords words).length := by
    rw [hlen]
    exact Nat.mul_pos (Nat.pos_of_ne_zero (NeZero.ne n)) (by omega)
  have hpre : deliveries w n r (preamble w) = [] := by
    rw [preamble, deliveries_append, deliveries_zeros, List.nil_append]
    have hrun := run_preamble (w := w) (n := n) r
    rw [preamble, run_snoc] at hrun
    have : (0 : ℕ) ≠ n * (w + 1) := by omega
    simp [deliveries, hrun, Receiver.delivers, Option.filter_some, this]
  rw [packet, deliveries_append, hpre, run_preamble, List.nil_append]
  exact deliveries_captured (c := []) (List.ne_nil_of_length_pos hpos) (inSync_frameWords h.width) hlen rfl
    (by simp [Receiver.Sound])

/-- Packets in a row are delivered in that order. -/
theorem deliveries_packets [NeZero n] (r : Receiver) {packets : List (List (List Bool))}
    (h : ∀ words ∈ packets, Words w n words) :
    deliveries w n r (packets.flatMap (packet w)) = packets.map frameWords := by
  induction packets generalizing r with
  | nil => rfl
  | cons words packets ih =>
    simp only [List.flatMap_cons, List.map_cons]
    rw [deliveries_append, deliveries_packet _ (h words (by simp)), ih _ fun v hv => h v (by simp [hv])]
    rfl

end AugmentedInsanity.SyncFraming
