import Libklvanc.Bitstream.Progress

/-!
# Decoders of bit fields

A `KlbsDecoder` clocks fields out of a bitstream context and may reject what it reads. What a
decoder does on the bits it expects is stated by `KlbsDecoder.Yields`, and such statements compose
along the steps of the decoder (`Yields.bind`); `KlbsDecoder.Rejects` states that it rejects them.

`KlbsDecoder.Takes d k` says that `d` reads `k` bits, whatever they are: on fewer bits it goes past
the end. These statements compose too (`Takes.bind`), and so the bits read by a decoder without
branches are counted. A decoder that checks what it reads is described by `KlbsDecoder.Screens`.
-/

namespace Libklvanc

/-- A decoder that clocks fields out of a bitstream context and may reject the packet. -/
abbrev KlbsDecoder (α : Type) : Type := ExceptT ℤ (StateM KlbsContext) α

namespace KlbsDecoder

/-- `klbs_read_bits`, as an octet or a wider word. -/
def readBits (w bitcount : ℕ) : KlbsDecoder (BitVec w) := do
  let ctx ← get
  let (bits, ctx) := klbsReadBits ctx bitcount
  set ctx
  pure (bits.setWidth w)

/-- Read and discard bits. -/
def skipBits (bitcount : ℕ) : KlbsDecoder Unit := do
  let _ ← readBits 64 bitcount

/-- `klbs_get_byte_count_free`. -/
def byteCountFree : KlbsDecoder ℕ := do
  let ctx ← get
  pure (klbsGetByteCountFree ctx)

/-- Reject what is read with the error `e` when fewer than `count` octets are left. -/
def needOctets (count : ℕ) (e : ℤ) : KlbsDecoder Unit := do
  let free ← byteCountFree
  if free < count then throw e

end KlbsDecoder

/-- What `needOctets` does. -/
lemma KlbsDecoder.needOctets_run (count : ℕ) (e : ℤ) (ctx : KlbsContext) :
    (needOctets count e).run.run ctx =
      if klbsGetByteCountFree ctx < count then (.error e, ctx) else (.ok (), ctx) := by
  split_ifs with h
  · have hrun : (needOctets count e).run.run ctx =
      (if klbsGetByteCountFree ctx < count then throw e else pure () : KlbsDecoder Unit).run.run
        ctx := rfl
    rw [hrun, if_pos h]
    rfl
  · have hrun : (needOctets count e).run.run ctx =
      (if klbsGetByteCountFree ctx < count then throw e else pure () : KlbsDecoder Unit).run.run
        ctx := rfl
    rw [hrun, if_neg h]
    rfl

section Run

variable {α β : Type} {d : KlbsDecoder α} {f : α → KlbsDecoder β} {ctx ctx' : KlbsContext}

/-- Behind a first step that succeeds the rest is run. -/
lemma KlbsDecoder.run_bind_of_ok {a : α} (h : d.run.run ctx = (.ok a, ctx')) :
    (d >>= f).run.run ctx = (f a).run.run ctx' := by
  rw [ExceptT.run_bind, StateT.run_bind, h]
  rfl

/-- Behind a first step that rejects nothing is run. -/
lemma KlbsDecoder.run_bind_of_error {e : ℤ} (h : d.run.run ctx = (.error e, ctx')) :
    (d >>= f).run.run ctx = (.error e, ctx') := by
  rw [ExceptT.run_bind, StateT.run_bind, h]
  rfl

end Run

section NeedOctets

variable {β : Type} {f : Unit → KlbsDecoder β} {ctx : KlbsContext} {count : ℕ} {e : ℤ}

/-- With enough octets left the rest is run. -/
lemma KlbsDecoder.needOctets_bind_run (h : count ≤ klbsGetByteCountFree ctx) :
    (needOctets count e >>= f).run.run ctx = (f ()).run.run ctx := by
  refine run_bind_of_ok ?_
  rw [needOctets_run, if_neg (not_lt.mpr h)]

/-- With too few of them it is not. -/
lemma KlbsDecoder.needOctets_bind_short (h : klbsGetByteCountFree ctx < count) :
    (needOctets count e >>= f).run.run ctx = (.error e, ctx) := by
  refine run_bind_of_error ?_
  rw [needOctets_run, if_pos h]

end NeedOctets

/-! ### What a decoder yields -/

/-- On a context that has `bits` to consume, and then more, the decoder consumes `bits`, returns `a`
and meets no fault. -/
def KlbsDecoder.Yields {α : Type} (d : KlbsDecoder α) (bits : List Bool) (a : α) : Prop :=
  ∀ (ctx : KlbsContext) (rest : List Bool), ctx.Reads (bits ++ rest) →
    ∃ ctx', d.run.run ctx = (.ok a, ctx') ∧ ctx'.Reads rest ∧ ctx'.faults = ctx.faults ∧
      ctx'.buflen = ctx.buflen

namespace KlbsDecoder.Yields

variable {α β : Type} {a : α} {b : β} {d : KlbsDecoder α} {f : α → KlbsDecoder β}
  {bits bits' : List Bool}

/-- Returning a value consumes nothing. -/
lemma pure (a : α) : (Pure.pure a : KlbsDecoder α).Yields [] a :=
  fun ctx _ h => ⟨ctx, rfl, h, rfl, rfl⟩

/-- Running a decoder that begins with a step on the bits this step expects. -/
lemma run_bind (hd : d.Yields bits a) {ctx : KlbsContext} {rest : List Bool}
    (h : ctx.Reads (bits ++ rest)) :
    ∃ ctx', (d >>= f).run.run ctx = (f a).run.run ctx' ∧ ctx'.Reads rest ∧
      ctx'.faults = ctx.faults ∧ ctx'.buflen = ctx.buflen := by
  obtain ⟨ctx', hrun, h', hfaults, hlen⟩ := hd ctx rest h
  exact ⟨ctx', run_bind_of_ok hrun, h', hfaults, hlen⟩

/-- Two steps consume their bits one after the other. -/
lemma bind (hd : d.Yields bits a) (hf : (f a).Yields bits' b) :
    (d >>= f).Yields (bits ++ bits') b := by
  intro ctx rest h
  rw [List.append_assoc] at h
  obtain ⟨ctx₁, hrun, h₁, hfaults₁, hlen₁⟩ := hd.run_bind h
  obtain ⟨ctx₂, hf₂, h₂, hfaults₂, hlen₂⟩ := hf ctx₁ _ h₁
  exact ⟨ctx₂, hrun.trans hf₂, h₂, hfaults₂.trans hfaults₁, hlen₂.trans hlen₁⟩

/-- A value computed from what is read. -/
lemma bind_pure (hd : d.Yields bits a) (g : α → β) :
    (d >>= fun a => Pure.pure (g a)).Yields bits (g a) := by
  have h := hd.bind (f := fun a => Pure.pure (g a)) (pure (g a))
  rwa [List.append_nil] at h

/-- A check that is passed consumes nothing. -/
lemma bind_check {g : α → KlbsDecoder Unit} (hd : d.Yields bits a) (hg : g a = Pure.pure ())
    (hf : (f a).Yields bits' b) :
    (d >>= fun a => g a >>= fun _ => f a).Yields (bits ++ bits') b := by
  refine hd.bind ?_
  rw [hg]
  exact hf

/-- A field is read back. -/
lemma readBits (w : ℕ) {k n : ℕ} (hk : k ≤ 64) (hn : n < 2 ^ k) :
    (KlbsDecoder.readBits w k).Yields (Bits.ofNat k n) (BitVec.ofNat w n) := by
  intro ctx rest h
  obtain ⟨v, ctx', hread, hv, hrest, hfaults, -, hlen⟩ := h.readField hk
  rw [Nat.mod_eq_of_lt hn] at hv
  have hrun : (KlbsDecoder.readBits w k).run.run ctx =
      (.ok ((klbsReadBits ctx k).1.setWidth w), (klbsReadBits ctx k).2) := rfl
  refine ⟨ctx', ?_, hrest, hfaults, hlen⟩
  rw [hrun, hread, ← hv, BitVec.ofNat_toNat]

/-- A field is read back modulo its width. -/
lemma readBits_mod (w : ℕ) {k : ℕ} (hk : k ≤ 64) (n : ℕ) :
    (KlbsDecoder.readBits w k).Yields (Bits.ofNat k n) (BitVec.ofNat w (n % 2 ^ k)) := by
  have h := readBits w hk (Nat.mod_lt n (Nat.two_pow_pos k))
  rwa [Bits.ofNat_mod] at h

/-- A decoder that asks for octets can rely on those of the bits it goes on to consume. -/
lemma needOctets_bind {f : Unit → KlbsDecoder β} {count : ℕ} (e : ℤ) (hf : (f ()).Yields bits b)
    (hcount : count ≤ bits.length / 8) : (needOctets count e >>= f).Yields bits b := by
  intro ctx rest h
  obtain ⟨ctx', hrun, h', hfaults, hlen⟩ := hf ctx rest h
  refine ⟨ctx', ?_, h', hfaults, hlen⟩
  have hfree : bits.length / 8 ≤ klbsGetByteCountFree ctx := by
    rw [h.byteCountFree_eq, List.length_append]
    exact Nat.div_le_div_right (Nat.le_add_right _ _)
  have hneed : (needOctets count e).run.run ctx = (.ok (), ctx) := by
    rw [needOctets_run, if_neg (by omega)]
  rw [run_bind_of_ok hneed]
  exact hrun

/-- A field is skipped. -/
lemma skipBits {k n : ℕ} (hk : k ≤ 64) (hn : n < 2 ^ k) :
    (KlbsDecoder.skipBits k).Yields (Bits.ofNat k n) () := by
  have h := (readBits 64 hk hn).bind (f := fun _ => Pure.pure ()) (pure ())
  rwa [List.append_nil] at h

/-- Whatever a field holds, it is skipped. -/
lemma skipBits_mod {k : ℕ} (hk : k ≤ 64) (n : ℕ) :
    (KlbsDecoder.skipBits k).Yields (Bits.ofNat k n) () := by
  have h := skipBits hk (Nat.mod_lt n (Nat.two_pow_pos k))
  rwa [Bits.ofNat_mod] at h

/-- A field is read back as the value of its type. -/
lemma readField {w k : ℕ} (hk : k ≤ 64) {v : BitVec w} (hv : v.toNat < 2 ^ k) :
    (KlbsDecoder.readBits w k).Yields (Bits.ofNat k v.toNat) v := by
  have h := readBits w hk hv
  rwa [BitVec.ofNat_toNat, BitVec.setWidth_eq] at h

/-- An octet is read back. -/
lemma octet (b : Byte) : (KlbsDecoder.readBits 8 8).Yields (Bits.ofBytes [b]) b := by
  have h := readField (by norm_num) b.isLt
  rwa [← List.append_nil (Bits.ofNat 8 b.toNat)] at h

/-- Octets are read back one after the other. -/
lemma octets (l : List Byte) :
    ((List.replicate l.length 8).mapM fun w => KlbsDecoder.readBits 8 w).Yields (Bits.ofBytes l)
      l := by
  induction l with
  | nil => exact pure []
  | cons b l ih =>
    rw [List.length_cons, List.replicate_succ, List.mapM_cons]
    have h := (octet b).bind (f := fun x => ((List.replicate l.length 8).mapM fun w =>
      KlbsDecoder.readBits 8 w) >>= fun as => Pure.pure (x :: as)) (ih.bind (pure (b :: l)))
    rwa [List.append_nil, ← Bits.ofBytes_append, List.singleton_append] at h

end KlbsDecoder.Yields

/-! ### What a decoder delivers -/

/-- On a context that has just `bits` to consume the decoder returns `a` and meets no fault, whether
or not it consumes them all. -/
def KlbsDecoder.Delivers {α : Type} (d : KlbsDecoder α) (bits : List Bool) (a : α) : Prop :=
  ∀ ctx : KlbsContext, ctx.Reads bits →
    ∃ ctx', d.run.run ctx = (.ok a, ctx') ∧ ctx'.faults = ctx.faults

namespace KlbsDecoder

variable {α β : Type} {a : α} {b : β} {d : KlbsDecoder α} {f : α → KlbsDecoder β}
  {bits bits' : List Bool}

/-- Returning a value leaves all bits. -/
lemma Delivers.pure (bits : List Bool) (a : α) : (Pure.pure a : KlbsDecoder α).Delivers bits a :=
  fun ctx _ => ⟨ctx, rfl, rfl⟩

/-- What is read from the first bits. -/
lemma Yields.bind_delivers (hd : d.Yields bits a) (hf : (f a).Delivers bits' b) :
    (d >>= f).Delivers (bits ++ bits') b := by
  intro ctx h
  obtain ⟨ctx₁, hrun, h₁, hfaults₁, -⟩ := hd.run_bind h
  obtain ⟨ctx₂, hf₂, hfaults₂⟩ := hf ctx₁ h₁
  exact ⟨ctx₂, hrun.trans hf₂, hfaults₂.trans hfaults₁⟩

/-- A decoder that asks for octets can rely on all of them. -/
lemma Delivers.needOctets_bind {f : Unit → KlbsDecoder β} {count : ℕ} (e : ℤ)
    (hf : (f ()).Delivers bits b) (hcount : count ≤ bits.length / 8) :
    (needOctets count e >>= f).Delivers bits b := by
  intro ctx h
  have hfree : count ≤ klbsGetByteCountFree ctx := by rwa [h.byteCountFree_eq]
  rw [needOctets_bind_run hfree]
  exact hf ctx h

end KlbsDecoder

/-- On a context that has `bits` to consume, and then more, the decoder rejects what it reads with
the error `e` and meets no fault. -/
def KlbsDecoder.Rejects {α : Type} (d : KlbsDecoder α) (bits : List Bool) (e : ℤ) : Prop :=
  ∀ (ctx : KlbsContext) (rest : List Bool), ctx.Reads (bits ++ rest) →
    ∃ ctx', d.run.run ctx = (.error e, ctx') ∧ ctx'.Reads rest ∧ ctx'.faults = ctx.faults

namespace KlbsDecoder.Rejects

variable {α β : Type} {d : KlbsDecoder α} {f : α → KlbsDecoder β} {bits : List Bool} {e : ℤ}

/-- Rejecting consumes nothing. -/
lemma throw (e : ℤ) : (MonadExcept.throw e : KlbsDecoder α).Rejects [] e :=
  fun ctx _ h => ⟨ctx, rfl, h, rfl⟩

/-- What comes behind a rejection is not run. -/
lemma bind (h : d.Rejects bits e) : (d >>= f).Rejects bits e := by
  intro ctx rest hreads
  obtain ⟨ctx', hd, h', hfaults⟩ := h ctx rest hreads
  exact ⟨ctx', run_bind_of_error hd, h', hfaults⟩

end KlbsDecoder.Rejects

/-! ### What a decoder returns in any case -/

/-- Whatever it reads, what the decoder returns satisfies `P`. -/
def KlbsDecoder.Ensures {α : Type} (d : KlbsDecoder α) (P : α → Prop) : Prop :=
  ∀ (ctx : KlbsContext) (a : α) (ctx' : KlbsContext), d.run.run ctx = (.ok a, ctx') → P a

namespace KlbsDecoder.Ensures

variable {α β : Type} {d : KlbsDecoder α} {f : α → KlbsDecoder β} {P : α → Prop} {Q : β → Prop}

lemma pure {a : α} (h : P a) : (Pure.pure a : KlbsDecoder α).Ensures P := by
  intro ctx a' ctx' hrun
  obtain rfl : a = a' := Except.ok.inj (congrArg Prod.fst hrun)
  exact h

/-- The second step can rely on what the first one ensures. -/
lemma bind (hd : d.Ensures P) (hf : ∀ a, P a → (f a).Ensures Q) : (d >>= f).Ensures Q := by
  intro ctx b ctx' hrun
  rcases hfirst : d.run.run ctx with ⟨e | a, ctx₁⟩
  · rw [run_bind_of_error hfirst] at hrun
    cases hrun
  · rw [run_bind_of_ok hfirst] at hrun
    exact hf a (hd ctx a ctx₁ hfirst) ctx₁ b ctx' hrun

/-- What the last step ensures. -/
lemma bind_right (hf : ∀ a, (f a).Ensures Q) : (d >>= f).Ensures Q :=
  bind (fun _ _ _ _ => trivial : d.Ensures fun _ => True) fun a _ => hf a

end KlbsDecoder.Ensures

/-! ### How much a decoder takes -/

/-- Whatever a decoder does, it makes progress. -/
def KlbsDecoder.Progresses {α : Type} (d : KlbsDecoder α) : Prop :=
  ∀ ctx : KlbsContext, ctx.Progress (d.run.run ctx).2

namespace KlbsDecoder.Progresses

variable {α β : Type} {d : KlbsDecoder α} {f : α → KlbsDecoder β}

lemma pure (a : α) : (Pure.pure a : KlbsDecoder α).Progresses := fun ctx => .refl ctx

lemma throw (e : ℤ) : (MonadExcept.throw e : KlbsDecoder α).Progresses := fun ctx => .refl ctx

lemma bind (hd : d.Progresses) (hf : ∀ a, (f a).Progresses) : (d >>= f).Progresses := by
  intro ctx
  have hfirst := hd ctx
  rcases hrun : d.run.run ctx with ⟨e | a, ctx'⟩
  · rw [hrun] at hfirst
    rw [run_bind_of_error hrun]
    exact hfirst
  · rw [hrun] at hfirst
    rw [run_bind_of_ok hrun]
    exact hfirst.trans (hf a ctx')

/-- The second step goes on from where the first one ends. -/
lemma second (hf : ∀ a, (f a).Progresses) (ctx : KlbsContext) :
    (d.run.run ctx).2.Progress ((d >>= f).run.run ctx).2 := by
  rcases hrun : d.run.run ctx with ⟨e | a, ctx'⟩
  · rw [run_bind_of_error hrun]
    exact .refl ctx'
  · rw [run_bind_of_ok hrun]
    exact hf a ctx'

lemma readBits (w k : ℕ) : (KlbsDecoder.readBits w k).Progresses :=
  fun ctx => KlbsContext.Progress.readBits ctx k

lemma byteCountFree : KlbsDecoder.byteCountFree.Progresses := fun ctx => .refl ctx

/-- A decoder that looks at the octets left. -/
lemma byteCountFree_bind {g : ℕ → KlbsDecoder β} (hg : ∀ n, (g n).Progresses) :
    (KlbsDecoder.byteCountFree >>= g).Progresses :=
  fun ctx => hg (klbsGetByteCountFree ctx) ctx

lemma skipBits (k : ℕ) : (KlbsDecoder.skipBits k).Progresses :=
  (readBits 64 k).bind fun _ => pure ()

lemma needOctets (count : ℕ) (e : ℤ) : (KlbsDecoder.needOctets count e).Progresses := by
  intro ctx
  rw [needOctets_run]
  split_ifs
  · exact .refl ctx
  · exact .refl ctx

lemma ite {c : Prop} [Decidable c] {d₁ d₂ : KlbsDecoder α} (h₁ : d₁.Progresses)
    (h₂ : d₂.Progresses) : (if c then d₁ else d₂).Progresses := by
  split_ifs
  · exact h₁
  · exact h₂

end KlbsDecoder.Progresses

/-! ### Decoders that meet a fault -/

/-- The decoder never rejects what it reads. -/
def KlbsDecoder.Total {α : Type} (d : KlbsDecoder α) : Prop :=
  ∀ ctx : KlbsContext, ∃ a ctx', d.run.run ctx = (.ok a, ctx')

/-- Whatever it reads, the decoder meets a fault. -/
def KlbsDecoder.Faulty {α : Type} (d : KlbsDecoder α) : Prop :=
  ∀ ctx : KlbsContext, (d.run.run ctx).2.faults ≠ []

namespace KlbsDecoder

variable {α β : Type} {d : KlbsDecoder α} {f : α → KlbsDecoder β}

lemma Total.readBits (w k : ℕ) : (readBits w k).Total := fun _ => ⟨_, _, rfl⟩

lemma Total.skipBits (k : ℕ) : (skipBits k).Total := fun _ => ⟨_, _, rfl⟩

lemma Total.pure (a : α) : (Pure.pure a : KlbsDecoder α).Total := fun _ => ⟨_, _, rfl⟩

lemma Total.bind (hd : d.Total) (hf : ∀ a, (f a).Total) : (d >>= f).Total := by
  intro ctx
  obtain ⟨a, ctx', hrun⟩ := hd ctx
  rw [run_bind_of_ok hrun]
  exact hf a ctx'

lemma Total.ite {c : Prop} [Decidable c] {d₁ d₂ : KlbsDecoder α} (h₁ : d₁.Total)
    (h₂ : d₂.Total) : (if c then d₁ else d₂).Total := by
  split_ifs
  · exact h₁
  · exact h₂

lemma Total.byteCountFree : byteCountFree.Total := fun _ => ⟨_, _, rfl⟩

/-- Fields that are read one after the other. -/
lemma Total.mapM {γ : Type} {g : γ → KlbsDecoder α} (hg : ∀ x, (g x).Total) (l : List γ) :
    (l.mapM g).Total := by
  induction l with
  | nil => exact .pure []
  | cons x l ih =>
    rw [List.mapM_cons]
    exact (hg x).bind fun a => ih.bind fun as => .pure (a :: as)

/-- A fault of the first step is kept. -/
lemma Faulty.bind_left (hd : d.Faulty) (hf : ∀ a, (f a).Progresses) : (d >>= f).Faulty :=
  fun ctx => (Progresses.second hf ctx).faults_ne_nil (hd ctx)

/-- A fault of the second step is met. -/
lemma Faulty.bind_right (hd : d.Total) (hf : ∀ a, (f a).Faulty) : (d >>= f).Faulty := by
  intro ctx
  obtain ⟨a, ctx', hrun⟩ := hd ctx
  rw [run_bind_of_ok hrun]
  exact hf a ctx'

end KlbsDecoder

/-- The decoder reads `k` bits, whatever they are. -/
structure KlbsDecoder.Takes {α : Type} (d : KlbsDecoder α) (k : ℕ) : Prop where
  progresses : d.Progresses
  yields : ∀ bits : List Bool, bits.length = k → ∃ a, d.Yields bits a
  past : ∀ (ctx : KlbsContext) (rest : List Bool), ctx.Reads rest → rest.length < k →
    (d.run.run ctx).2.Past

namespace KlbsDecoder.Takes

variable {α β : Type} {d : KlbsDecoder α} {f : α → KlbsDecoder β} {j k : ℕ}

/-- Returning a value takes nothing. -/
lemma pure (a : α) : (Pure.pure a : KlbsDecoder α).Takes 0 where
  progresses := .pure a
  yields bits hbits := by
    rw [List.eq_nil_of_length_eq_zero hbits]
    exact ⟨a, .pure a⟩
  past _ _ _ h := absurd h (Nat.not_lt_zero _)

/-- When the first step goes past the end, so does the whole. -/
lemma past_bind (hd : d.Takes j) (hf : ∀ a, (f a).Progresses) {ctx : KlbsContext}
    {rest : List Bool} (h : ctx.Reads rest) (hlt : rest.length < j) :
    ((d >>= f).run.run ctx).2.Past :=
  (Progresses.second hf ctx).past (hd.past ctx rest h hlt)

/-- Two steps take the sum of what they take. -/
lemma bind (hd : d.Takes j) (hf : ∀ a, (f a).Takes k) : (d >>= f).Takes (j + k) where
  progresses := hd.progresses.bind fun a => (hf a).progresses
  yields bits hbits := by
    obtain ⟨a, ha⟩ := hd.yields (bits.take j) (by rw [List.length_take]; omega)
    obtain ⟨b, hb⟩ := (hf a).yields (bits.drop j) (by rw [List.length_drop]; omega)
    have h := ha.bind hb
    rw [List.take_append_drop] at h
    exact ⟨b, h⟩
  past ctx rest hreads hlen := by
    by_cases hj : rest.length < j
    · exact hd.past_bind (fun a => (hf a).progresses) hreads hj
    · obtain ⟨a, ha⟩ := hd.yields (rest.take j) (by rw [List.length_take]; omega)
      rw [← List.take_append_drop j rest] at hreads
      obtain ⟨ctx', hrun, hreads', -, -⟩ := ha.run_bind (f := f) hreads
      rw [hrun]
      exact (hf a).past ctx' _ hreads' (by rw [List.length_drop]; omega)

/-- A value computed from what is read. -/
lemma bind_pure (hd : d.Takes k) (g : α → β) : (d >>= fun a => Pure.pure (g a)).Takes k :=
  hd.bind fun a => pure (g a)

/-- A field takes its bits, also when it has more of them than the reader's accumulator. -/
lemma readBits (w k : ℕ) : (KlbsDecoder.readBits w k).Takes k where
  progresses := .readBits w k
  yields bits hbits := by
    by_cases hk : k ≤ 64
    · have h := Yields.readBits w hk (hbits ▸ Bits.toNat_lt bits)
      rw [← hbits, Bits.ofNat_toNat, hbits] at h
      exact ⟨_, h⟩
    · refine ⟨(bits.foldl (fun (acc : BitVec 64) b => acc <<< 1 |||
        (BitVec.ofBool b).setWidth 64) 0).setWidth w, fun ctx rest h => ?_⟩
      obtain ⟨ctx', hread, h', hfaults, hlen⟩ := h.consumeBits (by omega)
      have hrun : (KlbsDecoder.readBits w k).run.run ctx =
        (.ok ((klbsReadBits ctx k).1.setWidth w), (klbsReadBits ctx k).2) := rfl
      rw [hrun, ← hbits, hread]
      exact ⟨ctx', rfl, h', hfaults, hlen⟩
  past _ _ hreads hlen := hreads.readBits_past hlen

/-- Skipped bits are taken. -/
lemma skipBits (k : ℕ) : (KlbsDecoder.skipBits k).Takes k :=
  (readBits 64 k).bind fun _ => pure ()

/-- Fields that are read one after the other take the sum of their widths. -/
lemma mapM {γ : Type} {g : γ → KlbsDecoder α} {width : γ → ℕ} (hg : ∀ x, (g x).Takes (width x))
    (l : List γ) : (l.mapM g).Takes (l.map width).sum := by
  induction l with
  | nil => exact pure []
  | cons x l ih =>
    rw [List.mapM_cons, List.map_cons, List.sum_cons]
    exact (hg x).bind fun a => ih.bind fun as => pure (a :: as)

end KlbsDecoder.Takes

/-! ### Whole octets -/

/-- From the context `ctx` the context `ctx'` has been reached without a fault, and the octets `l`
are left. -/
structure KlbsContext.Reaches (ctx ctx' : KlbsContext) (l : List Byte) : Prop where
  reads : ctx'.Reads (Bits.ofBytes l)
  faults_eq : ctx'.faults = ctx.faults
  buflen_eq : ctx'.buflen = ctx.buflen

namespace KlbsContext.Reaches

variable {ctx ctx₁ ctx₂ : KlbsContext} {l l' : List Byte}

lemma trans (h₁ : ctx.Reaches ctx₁ l) (h₂ : ctx₁.Reaches ctx₂ l') : ctx.Reaches ctx₂ l' :=
  ⟨h₂.reads, h₂.faults_eq.trans h₁.faults_eq, h₂.buflen_eq.trans h₁.buflen_eq⟩

end KlbsContext.Reaches

namespace KlbsDecoder

variable {α β : Type} {d : KlbsDecoder α} {f : α → KlbsDecoder β} {ctx : KlbsContext}
  {l : List Byte}

/-- A decoder of whole octets leaves the octets behind them. -/
lemma Takes.reaches {m : ℕ} (h : d.Takes (8 * m)) (hreads : ctx.Reads (Bits.ofBytes l))
    (hm : m ≤ l.length) :
    ∃ a ctx', d.run.run ctx = (.ok a, ctx') ∧ ctx.Reaches ctx' (l.drop m) := by
  obtain ⟨a, ha⟩ := h.yields (Bits.ofBytes (l.take m))
    (by rw [Bits.ofBytes_length, List.length_take, min_eq_left hm])
  rw [← List.take_append_drop m l, Bits.ofBytes_append] at hreads
  obtain ⟨ctx', hrun, h', hfaults, hlen⟩ := ha ctx _ hreads
  exact ⟨a, ctx', hrun, h', hfaults, hlen⟩

/-- What is read from the first octets. -/
lemma Yields.reaches {l' : List Byte} {a : α} (h : d.Yields (Bits.ofBytes l) a)
    (hreads : ctx.Reads (Bits.ofBytes (l ++ l'))) :
    ∃ ctx', d.run.run ctx = (.ok a, ctx') ∧ ctx.Reaches ctx' l' := by
  rw [Bits.ofBytes_append] at hreads
  obtain ⟨ctx', hrun, h', hfaults, hlen⟩ := h ctx _ hreads
  exact ⟨ctx', hrun, h', hfaults, hlen⟩

/-- The next octet. -/
lemma readBits_octet {b : Byte} (hreads : ctx.Reads (Bits.ofBytes (b :: l))) :
    ∃ ctx', (readBits 8 8).run.run ctx = (.ok b, ctx') ∧ ctx.Reaches ctx' l :=
  (Yields.octet b).reaches hreads

/-- Looking at the octets left. -/
lemma byteCountFree_bind_run (g : ℕ → KlbsDecoder β) (hreads : ctx.Reads (Bits.ofBytes l)) :
    (byteCountFree >>= g).run.run ctx = (g l.length).run.run ctx := by
  have hrun : (byteCountFree >>= g).run.run ctx = (g (klbsGetByteCountFree ctx)).run.run ctx := rfl
  rw [hrun, hreads.byteCountFree_octets]

/-- Enough octets are left. -/
lemma needOctets_bind_enough {f : Unit → KlbsDecoder β} {count : ℕ} {e : ℤ}
    (hreads : ctx.Reads (Bits.ofBytes l)) (hle : count ≤ l.length) :
    (needOctets count e >>= f).run.run ctx = (f ()).run.run ctx :=
  needOctets_bind_run (by rwa [hreads.byteCountFree_octets])

/-- Too few octets are left. -/
lemma needOctets_bind_few {f : Unit → KlbsDecoder β} {count : ℕ} {e : ℤ}
    (hreads : ctx.Reads (Bits.ofBytes l)) (hlt : l.length < count) :
    (needOctets count e >>= f).run.run ctx = (.error e, ctx) :=
  needOctets_bind_short (by rwa [hreads.byteCountFree_octets])

end KlbsDecoder

/-! ### Decoders that check what they read -/

/-- The decoder reads `k` bits and meets no fault, unless they are `bad`: then it rejects them,
possibly before it has read them all. -/
structure KlbsDecoder.Screens {α : Type} (d : KlbsDecoder α) (k : ℕ) (bad : List Bool → Prop) :
    Prop where
  progresses : d.Progresses
  passes : ∀ (ctx : KlbsContext) (rest : List Bool), ctx.Reads rest → ¬bad rest → k ≤ rest.length →
    ∃ a ctx', d.run.run ctx = (.ok a, ctx') ∧ ctx'.Reads (rest.drop k) ∧ ctx'.faults = ctx.faults
  rejects : ∀ (ctx : KlbsContext) (rest : List Bool), ctx.Reads rest → bad rest →
    ∃ ctx', d.run.run ctx = (.error (-1), ctx') ∧ ctx'.faults = ctx.faults
  past : ∀ (ctx : KlbsContext) (rest : List Bool), ctx.Reads rest → ¬bad rest → rest.length < k →
    (d.run.run ctx).2.Past

namespace KlbsDecoder

variable {α β : Type} {d : KlbsDecoder α} {f : α → KlbsDecoder β} {j k : ℕ}
  {bad bad' : List Bool → Prop}

/-- A decoder without checks. -/
lemma Takes.screens (h : d.Takes k) : d.Screens k fun _ => False where
  progresses := h.progresses
  passes ctx rest hreads _ hlen := by
    obtain ⟨a, ha⟩ := h.yields (rest.take k) (by rw [List.length_take]; omega)
    rw [← List.take_append_drop k rest] at hreads
    obtain ⟨ctx', hrun, h', hfaults, -⟩ := ha ctx _ hreads
    exact ⟨a, ctx', hrun, h', hfaults⟩
  rejects _ _ _ hbad := hbad.elim
  past ctx rest hreads _ hlen := h.past ctx rest hreads hlen

/-- A check of what has been read, and then the rest. -/
lemma Takes.screen {g : α → KlbsDecoder Unit} (h : d.Takes j)
    (hcheck : ∀ bits : List Bool, bits.length = j → ∃ a, d.Yields bits a ∧
      (bad bits → g a = throw (-1)) ∧ (¬bad bits → g a = Pure.pure ()))
    (hg : ∀ a, (g a).Progresses) (hf : ∀ a, (f a).Screens k bad') :
    (d >>= fun a => g a >>= fun _ => f a).Screens (j + k) fun bits =>
      j ≤ bits.length ∧ (bad (bits.take j) ∨ bad' (bits.drop j)) where
  progresses := h.progresses.bind fun a => (hg a).bind fun _ => (hf a).progresses
  passes ctx rest hreads hbad hlen := by
    have hj : j ≤ rest.length := by omega
    rw [not_and_or, not_or] at hbad
    obtain ⟨hgood, hgood'⟩ := hbad.resolve_left (not_not.mpr hj)
    obtain ⟨a, ha, -, hpass⟩ := hcheck (rest.take j) (by rw [List.length_take]; omega)
    rw [← List.take_append_drop j rest] at hreads
    obtain ⟨ctx₁, hrun₁, h₁, hfaults₁, -⟩ := ha ctx _ hreads
    obtain ⟨b, ctx₂, hrun₂, h₂, hfaults₂⟩ :=
      (hf a).passes ctx₁ _ h₁ hgood' (by rw [List.length_drop]; omega)
    rw [List.drop_drop] at h₂
    refine ⟨b, ctx₂, ?_, h₂, hfaults₂.trans hfaults₁⟩
    rw [run_bind_of_ok hrun₁, hpass hgood]
    exact hrun₂
  rejects ctx rest hreads hbad := by
    obtain ⟨hj, hbad⟩ := hbad
    obtain ⟨a, ha, hreject, hpass⟩ := hcheck (rest.take j) (by rw [List.length_take]; omega)
    rw [← List.take_append_drop j rest] at hreads
    obtain ⟨ctx₁, hrun₁, h₁, hfaults₁, -⟩ := ha ctx _ hreads
    rw [run_bind_of_ok hrun₁]
    by_cases hfirst : bad (rest.take j)
    · rw [hreject hfirst]
      exact ⟨ctx₁, rfl, hfaults₁⟩
    · obtain ⟨ctx₂, hrun₂, hfaults₂⟩ := (hf a).rejects ctx₁ _ h₁ (hbad.resolve_left hfirst)
      rw [hpass hfirst]
      exact ⟨ctx₂, hrun₂, hfaults₂.trans hfaults₁⟩
  past ctx rest hreads hbad hlen := by
    by_cases hj : j ≤ rest.length
    · rw [not_and_or, not_or] at hbad
      obtain ⟨hgood, hgood'⟩ := hbad.resolve_left (not_not.mpr hj)
      obtain ⟨a, ha, -, hpass⟩ := hcheck (rest.take j) (by rw [List.length_take]; omega)
      rw [← List.take_append_drop j rest] at hreads
      obtain ⟨ctx₁, hrun₁, h₁, -, -⟩ := ha ctx _ hreads
      rw [run_bind_of_ok hrun₁, hpass hgood]
      exact (hf a).past ctx₁ _ h₁ hgood' (by rw [List.length_drop]; omega)
    · exact h.past_bind (fun a => (hg a).bind fun _ => (hf a).progresses) hreads (by omega)

end KlbsDecoder

end Libklvanc
