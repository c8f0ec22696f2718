import RouteDoc.Proofs.Outcome
import RouteDoc.Yaml.Node.Reader

/-! The reading of YAML text, from characters to tokens and from tokens to nodes. Besides that the
text is malformed, it fails for two numbers only: that of a character in an escape, and that of a
version in a directive. -/

namespace RouteDoc.Yaml

/-- The faults of the reading of nodes. -/
inductive Fault.IsOfReading : Fault → Prop
  | malformed : IsOfReading .malformed
  | codePoint {code : Nat} : 0x10FFFF < code → IsOfReading (.codePoint code)
  | oversized {digits : Nat} : Failure.digitLimit < digits → IsOfReading (.oversized digits)

/-- Whether a token stands for a fault. -/
def Token.isBroken : Token → Bool
  | .broken _ => true
  | _ => false

/-- A token that is read stands for no fault. -/
def Token.IsRead (found : Token × Cursor) : Prop := found.1.isBroken = false

open Fault

/-! ### Names -/

namespace Name

variable {c : Cursor}

theorem ends_readAnchor : Ends IsOfReading (fun _ => True) (readAnchor c) := by
  unfold readAnchor
  split
  split
  · exact .error .malformed
  · exact .ok trivial

theorem ends_readHandle : Ends IsOfReading (fun _ => True) (readHandle c) := by
  unfold readHandle
  split
  · exact .error .malformed
  · split
    · exact .ok trivial
    · split
      split
      · exact .ok trivial
      · exact .error .malformed

theorem ends_readBytes (fuel : Nat) : ∀ c, Ends IsOfReading (fun _ => True) (readBytes fuel c) := by
  induction fuel with
  | zero => exact fun _ => .ok trivial
  | succ fuel ih =>
    intro c
    unfold readBytes
    dsimp only
    split
    · exact .ok trivial
    · split
      · exact .error .malformed
      · split
        · exact .error .malformed
        · exact (ih _).bind fun _ _ => .ok trivial

theorem ends_readAddressChars (fuel : Nat) :
    ∀ c, Ends IsOfReading (fun _ => True) (readAddressChars fuel c) := by
  induction fuel with
  | zero => exact fun _ => .ok trivial
  | succ fuel ih =>
    intro c
    unfold readAddressChars
    split
    · refine (ends_readBytes _ c).bind fun found _ => ?_
      dsimp only
      split
      · exact .error .malformed
      · exact (ih _).bind fun _ _ => .ok trivial
    · split
      · exact (ih _).bind fun _ _ => .ok trivial
      · exact .ok trivial

theorem ends_readAddress : Ends IsOfReading (fun _ => True) (readAddress c) := by
  refine (ends_readAddressChars _ c).bind fun found _ => ?_
  dsimp only
  split
  · exact .error .malformed
  · exact .ok trivial

theorem ends_readTagParts : Ends IsOfReading (fun _ => True) (readTagParts c) := by
  unfold readTagParts
  dsimp only
  split
  · refine ends_readAddress.bind fun found _ => ?_
    split
    · exact .ok trivial
    · exact .error .malformed
  · split
    · exact .ok trivial
    · split
      · exact ends_readHandle.bind fun _ _ => ends_readAddress.bind fun _ _ => .ok trivial
      · exact ends_readAddress.bind fun _ _ => .ok trivial

theorem ends_readTag : Ends IsOfReading Token.IsRead (readTag c) := by
  refine ends_readTagParts.bind fun found _ => ?_
  dsimp only
  split
  · exact .ok rfl
  · exact .error .malformed

theorem ends_readNumber : Ends IsOfReading (fun _ => True) (readNumber c) := by
  unfold readNumber
  split
  split
  · exact .error .malformed
  · split
    next hlong => exact .error (.oversized hlong)
    · exact .ok trivial

theorem ends_readVersion : Ends IsOfReading Token.IsRead (readVersion c) := by
  refine ends_readNumber.bind fun major _ => ?_
  dsimp only
  split
  · exact .error .malformed
  · refine ends_readNumber.bind fun minor _ => ?_
    split
    · exact .ok rfl
    · exact .error .malformed

theorem ends_readHandleRule : Ends IsOfReading Token.IsRead (readHandleRule c) := by
  refine ends_readHandle.bind fun handle _ => ?_
  dsimp only
  split
  · exact .error .malformed
  · refine ends_readAddress.bind fun start _ => ?_
    split
    · exact .ok rfl
    · exact .error .malformed

theorem ends_readDirective : Ends IsOfReading Token.IsRead (readDirective c) := by
  have hrest : ∀ found : Token × Cursor, Token.IsRead found → Ends IsOfReading Token.IsRead
      (if Cursor.isLineEnd found.2.skipComment.head then
        .ok (found.1, found.2.skipComment.takeBreak.2) else .error .malformed) := by
    intro found hfound
    split
    · exact .ok hfound
    · exact .error .malformed
  unfold readDirective
  dsimp only
  split
  · exact .error .malformed
  · split
    · exact ends_readVersion.bind hrest
    · split
      · exact ends_readHandleRule.bind hrest
      · exact Ends.bind (P := Token.IsRead) (.ok rfl) hrest

end Name

/-! ### Scalars -/

namespace Scalar

theorem ends_quotedBreaks (fuel : Nat) :
    ∀ c, Ends IsOfReading (fun _ => True) (quotedBreaks fuel c) := by
  induction fuel with
  | zero => exact fun _ => .ok trivial
  | succ fuel ih =>
    intro c
    unfold quotedBreaks
    split
    · exact .error .malformed
    · dsimp only
      split
      · exact (ih _).bind fun _ _ => .ok trivial
      · exact .ok trivial

theorem ends_readEscape {c : Cursor} : Ends IsOfReading (fun _ => True) (readEscape c) := by
  unfold readEscape
  split
  · exact .ok trivial
  · dsimp only
    split
    · exact .error .malformed
    · split
      · exact .error .malformed
      · split
        next hlarge => exact .error (.codePoint hlarge)
        · exact .ok trivial
  · split
    · exact ends_quotedBreaks _ _
    · exact .error .malformed

theorem ends_readQuoted (double : Bool) (fuel : Nat) :
    ∀ c, Ends IsOfReading (fun _ => True) (readQuoted double fuel c) := by
  induction fuel with
  | zero => exact fun _ => .error .malformed
  | succ fuel ih =>
    intro c
    unfold readQuoted
    dsimp only
    split
    · exact .error .malformed
    · split
      · split
        · refine (ends_quotedBreaks _ _).bind fun _ _ => ?_
          exact (ih _).bind fun _ _ => .ok trivial
        · exact (ih _).bind fun _ _ => .ok trivial
      · split
        · exact ends_readEscape.bind fun _ _ => (ih _).bind fun _ _ => .ok trivial
        · split_ifs
          all_goals first
            | exact .ok trivial
            | exact (ih _).bind fun _ _ => .ok trivial

theorem ends_readBlock {folded : Bool} {least : Nat} {c : Cursor} :
    Ends IsOfReading (fun _ => True) (readBlock folded least c) := by
  unfold readBlock
  split
  dsimp only
  split
  · exact .error .malformed
  · split
    all_goals
      split
      · exact .ok trivial
      · exact .ok trivial

end Scalar

/-! ### Tokens -/

namespace Reading

variable {r : Reading}

/-- No token so far stands for a fault. -/
def IsWhole (r : Reading) : Prop := ∀ token ∈ r.tokens, token.isBroken = false

theorem IsWhole.cons {token : Token} (h : r.IsWhole) (htoken : token.isBroken = false) :
    ∀ t ∈ token :: r.tokens, t.isBroken = false :=
  List.forall_mem_cons.mpr ⟨htoken, h⟩

theorem IsWhole.close (h : r.IsWhole) (keep : Nat → Bool) : (r.close keep).IsWhole := by
  unfold Reading.close
  split
  · exact h
  · intro token hmem
    rcases List.mem_append.mp hmem with hmem | hmem
    · obtain ⟨_, -, rfl⟩ := List.mem_map.mp hmem
      rfl
    · exact h token hmem

theorem IsWhole.openBlock {start : Token} {column : Nat} (h : r.IsWhole)
    (hstart : start.isBroken = false) : (r.openBlock start column).IsWhole := by
  unfold Reading.openBlock
  split
  · exact h.cons hstart
  · exact h

theorem ends_dropKey (h : r.IsWhole) : Ends IsOfReading IsWhole r.dropKey := by
  unfold dropKey
  split
  · exact .error .malformed
  · exact .ok h

theorem ends_dropStale (h : r.IsWhole) : Ends IsOfReading IsWhole r.dropStale := by
  unfold dropStale
  dsimp only
  split
  · exact .error .malformed
  · exact .ok h

theorem ends_noteKey (h : r.IsWhole) : Ends IsOfReading IsWhole r.noteKey := by
  unfold noteKey
  split
  · exact .ok h
  · exact (ends_dropKey h).bind fun _ h => .ok h

section Kinds

variable {read : Cursor → Except Fault (Token × Cursor)} {start mark : Token}

theorem ends_single (h : r.IsWhole) (hread : ∀ c, Ends IsOfReading Token.IsRead (read c)) :
    Ends IsOfReading IsWhole (r.single read) :=
  (ends_noteKey h).bind fun _ h => (hread _).bind fun _ htoken => .ok (h.cons htoken)

theorem ends_apart (h : r.IsWhole) (hread : ∀ c, Ends IsOfReading Token.IsRead (read c)) :
    Ends IsOfReading IsWhole (r.apart read) :=
  (ends_dropKey (h.close _)).bind fun _ h => (hread _).bind fun _ htoken => .ok (h.cons htoken)

theorem ends_openFlow (h : r.IsWhole) (hstart : start.isBroken = false) :
    Ends IsOfReading IsWhole (r.openFlow start) :=
  (ends_noteKey h).bind fun _ h => .ok (h.cons hstart)

theorem ends_closeFlow (h : r.IsWhole) (hmark : mark.isBroken = false) :
    Ends IsOfReading IsWhole (r.closeFlow mark) := by
  refine (ends_dropKey h).bind fun r h => ?_
  split
  · exact .error .malformed
  · exact .ok (h.cons hmark)

theorem ends_separate (h : r.IsWhole) : Ends IsOfReading IsWhole r.separate :=
  (ends_dropKey h).bind fun _ h => .ok (h.cons rfl)

theorem ends_begin {allowed : Bool} (h : r.IsWhole) (hstart : start.isBroken = false)
    (hmark : mark.isBroken = false) : Ends IsOfReading IsWhole (r.begin start mark allowed) := by
  have hopen : (if r.inFlow then r else r.openBlock start r.cursor.column).IsWhole := by
    split
    · exact h
    · exact h.openBlock hstart
  unfold begin
  split
  · exact .error .malformed
  · exact (ends_dropKey hopen).bind fun _ h => .ok (h.cons hmark)

theorem ends_takeValue (h : r.IsWhole) : Ends IsOfReading IsWhole r.takeValue := by
  unfold takeValue
  split
  · exact ends_begin h rfl rfl
  · exact .ok (h.cons rfl)

theorem ends_block {folded : Bool} (h : r.IsWhole) :
    Ends IsOfReading IsWhole (r.block folded) :=
  (ends_dropKey h).bind fun _ h => Scalar.ends_readBlock.bind fun _ _ => .ok (h.cons rfl)

theorem ends_quoted {double : Bool} (h : r.IsWhole) :
    Ends IsOfReading IsWhole (r.quoted double) :=
  ends_single h fun _ => (Scalar.ends_readQuoted double _ _).bind fun _ _ => .ok rfl

theorem ends_plain (h : r.IsWhole) : Ends IsOfReading IsWhole r.plain :=
  (ends_noteKey h).bind fun _ h => .ok (h.cons rfl)

end Kinds

theorem ends_readToken (h : r.IsWhole) : Ends IsOfReading IsWhole r.readToken := by
  unfold readToken
  dsimp only
  refine .ite (ends_apart h fun _ => Name.ends_readDirective) ?_
  refine .ite (ends_apart h fun _ => .ok rfl) ?_
  refine .ite (ends_apart h fun _ => .ok rfl) ?_
  refine .ite (ends_openFlow h rfl) ?_
  refine .ite (ends_openFlow h rfl) ?_
  refine .ite (ends_closeFlow h rfl) ?_
  refine .ite (ends_closeFlow h rfl) ?_
  refine .ite (ends_separate h) ?_
  refine .ite (ends_begin h rfl rfl) ?_
  refine .ite (ends_begin h rfl rfl) ?_
  refine .ite (ends_takeValue h) ?_
  refine .ite (ends_single h fun _ => Name.ends_readAnchor.map fun _ _ => rfl) ?_
  refine .ite (ends_single h fun _ => Name.ends_readAnchor.map fun _ _ => rfl) ?_
  refine .ite (ends_single h fun _ => Name.ends_readTag) ?_
  refine .ite (ends_block h) ?_
  refine .ite (ends_block h) ?_
  refine .ite (ends_quoted h) ?_
  refine .ite (ends_quoted h) ?_
  exact .ite (ends_plain h) (.error .malformed)

theorem ends_approach (h : r.IsWhole) : Ends IsOfReading IsWhole r.approach := by
  unfold approach
  dsimp only
  refine Ends.bind (ends_dropStale ?_) fun _ h => .ok (h.close _)
  exact fun token hmem => h token hmem

theorem ends_step (h : r.IsWhole) :
    Ends IsOfReading (fun next => ∀ r ∈ next, IsWhole r) r.step := by
  refine (ends_approach h).bind fun r h => ?_
  split
  · exact .ok (by simp)
  · exact (ends_readToken h).bind fun next h => .ok (by simpa using h)

theorem mem_weave {token : Token} (tokens : List Token) : ∀ {number : Nat}
    {keys : List (Nat × Bool)}, token ∈ weave number keys tokens →
      token ∈ tokens ∨ token.isBroken = false := by
  induction tokens with
  | nil =>
    intro number keys hmem
    simp [weave] at hmem
  | cons first tokens ih =>
    intro number keys hmem
    cases keys with
    | nil => exact .inl hmem
    | cons key keys =>
      have hrest : ∀ {number keys}, token ∈ weave number keys tokens →
          token ∈ first :: tokens ∨ token.isBroken = false :=
        fun h => (ih h).imp_left (List.mem_cons_of_mem _)
      unfold weave at hmem
      split at hmem
      · rcases List.mem_append.mp hmem with hmarks | hmem
        · have hmark : token = .blockMapping ∨ token = .key := by
            split at hmarks
            · simpa using hmarks
            · exact .inr (List.mem_singleton.mp hmarks)
          rcases hmark with rfl | rfl <;> exact .inr rfl
        · rcases List.mem_cons.mp hmem with rfl | hmem
          · exact .inl List.mem_cons_self
          · exact hrest hmem
      · rcases List.mem_cons.mp hmem with rfl | hmem
        · exact .inl List.mem_cons_self
        · exact hrest hmem

/-- The fault of a token, if it stands for one, is one of the reading. -/
def IsReadable (tokens : List Token) : Prop :=
  ∀ fault, .broken fault ∈ tokens → fault.IsOfReading

theorem IsWhole.woven (h : r.IsWhole) : ∀ token ∈ r.woven, token.isBroken = false := by
  intro token hmem
  rcases mem_weave _ hmem with hmem | hbroken
  · exact h token (List.mem_reverse.mp hmem)
  · exact hbroken

theorem isReadable_of_forall {tokens : List Token}
    (h : ∀ token ∈ tokens, token.isBroken = false) : IsReadable tokens :=
  fun _ hmem => nomatch h _ hmem

theorem isReadable_brokenBy {fault : Fault} (h : r.IsWhole) (hfault : fault.IsOfReading) :
    IsReadable (r.brokenBy fault) := by
  intro other hmem
  rcases List.mem_append.mp hmem with hmem | hmem
  · refine isReadable_of_forall (IsWhole.woven ?_) other hmem
    exact fun token hmem => h token (List.mem_of_mem_drop hmem)
  · cases List.mem_singleton.mp hmem
    exact hfault

-- The equation is checked step by step only while the steps themselves stay closed.
attribute [local irreducible] step dropStale dropKey in
theorem readAll_succ (fuel : Nat) (r : Reading) : readAll (fuel + 1) r =
    match r.dropStale with
    | .error fault => r.brokenBy fault
    | .ok r =>
      match r.step with
      | .error fault => r.brokenBy fault
      | .ok (some next) => readAll fuel next
      | .ok none =>
        match (r.close fun _ => false).dropKey with
        | .error fault => r.brokenBy fault
        | .ok r => r.woven ++ [.finish] := by
  exact rfl

theorem isReadable_readAll (fuel : Nat) : ∀ {r : Reading}, r.IsWhole →
    IsReadable (readAll fuel r) := by
  induction fuel with
  | zero => exact fun h => isReadable_of_forall h.woven
  | succ fuel ih =>
    intro r h
    have hfresh := ends_dropStale h
    rw [readAll_succ]
    split
    next fault hdrop => exact isReadable_brokenBy h (hfresh.of_eq_error hdrop)
    next r hdrop =>
      have h := hfresh.of_eq_ok hdrop
      split
      next fault hstep => exact isReadable_brokenBy h ((ends_step h).of_eq_error hstep)
      next next hstep => exact ih ((ends_step h).of_eq_ok hstep next rfl)
      next hstep =>
        have hlast := ends_dropKey (h.close fun _ => false)
        split
        next fault hdrop => exact isReadable_brokenBy h (hlast.of_eq_error hdrop)
        next r hdrop =>
          refine isReadable_of_forall fun token hmem => ?_
          rcases List.mem_append.mp hmem with hmem | hmem
          · exact (hlast.of_eq_ok hdrop).woven token hmem
          · cases List.mem_singleton.mp hmem
            rfl

end Reading

theorem Token.isReadable_ofText (t : Text) : Reading.IsReadable (Token.ofText t) := by
  unfold Token.ofText
  split
  · exact Reading.isReadable_readAll _ fun _ h => nomatch h
  · intro fault hmem
    cases List.mem_singleton.mp hmem
    exact .malformed

/-! ### Nodes -/

namespace Parse

/-- A step of the reading of nodes takes readable tokens to readable tokens, or fails with a fault
of the reading. -/
def Keeps {α : Type} (step : Parse α) : Prop :=
  ∀ p : Parsing, Reading.IsReadable p.tokens →
    Ends IsOfReading (fun found => Reading.IsReadable found.2.tokens) (step.run p)

namespace Keeps

variable {α β : Type}

theorem pure (a : α) : Keeps (Pure.pure a : Parse α) := fun _ h => .ok h

theorem malformed : Keeps (throw .malformed : Parse α) := fun _ _ => .error .malformed

theorem bind {step : Parse α} {next : α → Parse β} (h : Keeps step)
    (hnext : ∀ a, Keeps (next a)) : Keeps (step >>= next) := by
  intro p hp
  rw [StateT.run_bind]
  exact (h p hp).bind fun found hfound => hnext found.1 found.2 hfound

theorem get_bind {next : Parsing → Parse β} (hnext : ∀ p, Keeps (next p)) :
    Keeps (get >>= next) := fun p hp => hnext p p hp

theorem modify {change : Parsing → Parsing} (h : ∀ p, (change p).tokens ⊆ p.tokens) :
    Keeps (MonadState.modifyGet fun p => ((), change p) : Parse Unit) :=
  fun p hp => .ok fun fault hmem => hp fault (h p hmem)

theorem ite {c : Prop} [Decidable c] {x y : Parse α} (hx : Keeps x) (hy : Keeps y) :
    Keeps (if c then x else y) := by
  split
  · exact hx
  · exact hy

theorem peek : Keeps Parse.peek := by
  intro p hp
  rcases p with ⟨_ | ⟨token, tokens⟩, anchors⟩
  · exact .ok hp
  · cases token
    case broken fault => exact .error (hp fault List.mem_cons_self)
    all_goals exact .ok hp

theorem advance : Keeps Parse.advance := modify fun p => List.drop_subset 1 p.tokens

theorem expect (token : Token) : Keeps (Parse.expect token) :=
  peek.bind fun _ => advance.ite malformed

end Keeps

/-! #### Tags and anchors -/

theorem keeps_address {handles : Handles} {handle : Option Text} {suffix : Text} :
    Keeps (address handles handle suffix) := by
  unfold address
  split
  · exact .pure _
  · split
    · exact .pure _
    · exact .malformed

theorem keeps_tag? : Keeps tag? := by
  refine Keeps.peek.bind fun token => ?_
  split
  · exact Keeps.advance.bind fun _ => .pure _
  · exact .pure _

theorem keeps_anchor? : Keeps anchor? := by
  refine Keeps.peek.bind fun token => ?_
  split
  · exact Keeps.advance.bind fun _ => .pure _
  · exact .pure _

theorem keeps_properties {handles : Handles} : Keeps (properties handles) := by
  refine keeps_anchor?.bind fun before => keeps_tag?.bind fun tag => ?_
  cases tag with
  | none => exact .ite (keeps_anchor?.bind fun _ => .pure _) (.pure _)
  | some tag =>
    have haddress : ∀ anchor : Option Text, Keeps (do
        return (anchor, some (← address handles tag.1 tag.2))) :=
      fun anchor => keeps_address.bind fun _ => .pure _
    exact .ite (keeps_anchor?.bind haddress) ((Keeps.pure before).bind haddress)

theorem keeps_note {anchor : Option Text} : Keeps (note anchor) := by
  refine Keeps.peek.bind fun _ => ?_
  split
  · exact .pure _
  · refine Keeps.get_bind fun p => ?_
    exact .ite .malformed (.modify fun p => List.Subset.refl _)

theorem keeps_orEmpty {ends : Token → Bool} {read : Parse Node} (h : Keeps read) :
    Keeps (orEmpty ends read) :=
  Keeps.peek.bind fun _ => .ite (.pure _) h

theorem keeps_separator {first : Bool} : Keeps (separator first) :=
  .ite (.pure _) (.expect _)

/-! #### Nodes of each kind -/

/-- The steps that read nodes and their parts with some fuel. -/
structure KeepsNodes (handles : Handles) (fuel : Nat) : Prop where
  node : ∀ place, Keeps (node handles fuel place)
  content : ∀ place marked tag, Keeps (content handles fuel place marked tag)
  blockItems : Keeps (blockItems handles fuel)
  freeItems : Keeps (freeItems handles fuel)
  pair : ∀ place, Keeps (pair handles fuel place)
  blockEntries : Keeps (blockEntries handles fuel)
  flowItems : ∀ first, Keeps (flowItems handles fuel first)
  flowEntries : ∀ first, Keeps (flowEntries handles fuel first)

namespace KeepsNodes

variable {handles : Handles} {fuel : Nat}

theorem node_succ (h : KeepsNodes handles fuel) (place : Place) :
    Keeps (Parse.node handles (fuel + 1) place) := by
  unfold Parse.node
  refine Keeps.peek.bind fun token => ?_
  split
  · refine Keeps.advance.bind fun _ => Keeps.get_bind fun p => ?_
    exact .ite (.pure _) .malformed
  · refine keeps_properties.bind fun found => keeps_note.bind fun _ => ?_
    exact (h.content _ _ _).bind fun _ => .pure _

theorem content_succ (h : KeepsNodes handles fuel) (place : Place) (marked : Bool)
    (tag : Option Text) : Keeps (Parse.content handles (fuel + 1) place marked tag) := by
  unfold Parse.content
  refine Keeps.peek.bind fun token => ?_
  split
  · exact Keeps.advance.bind fun _ => .pure _
  · exact Keeps.advance.bind fun _ => (h.flowItems true).bind fun _ => .pure _
  · exact Keeps.advance.bind fun _ => (h.flowEntries true).bind fun _ => .pure _
  · refine .ite (Keeps.advance.bind fun _ => h.blockItems.bind fun _ => .pure _) ?_
    refine .ite (Keeps.advance.bind fun _ => h.blockEntries.bind fun _ => .pure _) ?_
    refine .ite (h.freeItems.bind fun _ => .pure _) ?_
    exact .ite (.pure _) .malformed

theorem blockItems_succ (h : KeepsNodes handles fuel) :
    Keeps (Parse.blockItems handles (fuel + 1)) := by
  unfold Parse.blockItems
  refine Keeps.peek.bind fun token => ?_
  split
  · refine Keeps.advance.bind fun _ => (keeps_orEmpty (h.node .block)).bind fun _ => ?_
    exact h.blockItems.bind fun _ => .pure _
  · exact (Keeps.expect _).bind fun _ => .pure _

theorem freeItems_succ (h : KeepsNodes handles fuel) :
    Keeps (Parse.freeItems handles (fuel + 1)) := by
  unfold Parse.freeItems
  refine Keeps.peek.bind fun token => ?_
  split
  · refine Keeps.advance.bind fun _ => (keeps_orEmpty (h.node .block)).bind fun _ => ?_
    exact h.freeItems.bind fun _ => .pure _
  · exact .pure _

theorem pair_succ (h : KeepsNodes handles fuel) (place : Place) :
    Keeps (Parse.pair handles (fuel + 1) place) := by
  unfold Parse.pair
  refine (keeps_orEmpty (h.node place)).bind fun key => Keeps.peek.bind fun token => ?_
  split
  · exact Keeps.advance.bind fun _ => (keeps_orEmpty (h.node place)).bind fun _ => .pure _
  · exact .pure _

theorem blockEntries_succ (h : KeepsNodes handles fuel) :
    Keeps (Parse.blockEntries handles (fuel + 1)) := by
  unfold Parse.blockEntries
  refine Keeps.peek.bind fun token => ?_
  split
  · refine Keeps.advance.bind fun _ => (h.pair .entry).bind fun _ => ?_
    exact h.blockEntries.bind fun _ => .pure _
  · exact (Keeps.expect _).bind fun _ => .pure _

theorem flowItems_succ (h : KeepsNodes handles fuel) (first : Bool) :
    Keeps (Parse.flowItems handles (fuel + 1) first) := by
  unfold Parse.flowItems
  refine Keeps.peek.bind fun token => ?_
  split
  · exact Keeps.advance.bind fun _ => .pure _
  · refine keeps_separator.bind fun _ => Keeps.peek.bind fun token => ?_
    split
    · exact Keeps.advance.bind fun _ => .pure _
    · refine Keeps.advance.bind fun _ => (h.pair .flow).bind fun _ => ?_
      exact (h.flowItems false).bind fun _ => .pure _
    · exact (h.node .flow).bind fun _ => (h.flowItems false).bind fun _ => .pure _

theorem flowEntries_succ (h : KeepsNodes handles fuel) (first : Bool) :
    Keeps (Parse.flowEntries handles (fuel + 1) first) := by
  unfold Parse.flowEntries
  refine Keeps.peek.bind fun token => ?_
  split
  · exact Keeps.advance.bind fun _ => .pure _
  · refine keeps_separator.bind fun _ => Keeps.peek.bind fun token => ?_
    split
    · exact Keeps.advance.bind fun _ => .pure _
    · refine Keeps.advance.bind fun _ => (h.pair .flow).bind fun _ => ?_
      exact (h.flowEntries false).bind fun _ => .pure _
    · exact (h.node .flow).bind fun _ => (h.flowEntries false).bind fun _ => .pure _

end KeepsNodes

theorem keepsNodes (handles : Handles) (fuel : Nat) : KeepsNodes handles fuel := by
  induction fuel with
  | zero =>
    exact ⟨fun _ => .malformed, fun _ _ _ => .malformed, .malformed, .malformed,
      fun _ => .malformed, .malformed, fun _ => .malformed, fun _ => .malformed⟩
  | succ fuel ih =>
    exact ⟨ih.node_succ, ih.content_succ, ih.blockItems_succ, ih.freeItems_succ, ih.pair_succ,
      ih.blockEntries_succ, ih.flowItems_succ, ih.flowEntries_succ⟩

/-! #### Documents -/

theorem keeps_directives (fuel : Nat) : ∀ {versioned : Bool} {handles : Handles},
    Keeps (directives fuel versioned handles) := by
  induction fuel with
  | zero => exact .malformed
  | succ fuel ih =>
    intro versioned handles
    unfold directives
    refine Keeps.peek.bind fun token => ?_
    split
    · exact .ite .malformed (Keeps.advance.bind fun _ => ih)
    · exact .ite .malformed (Keeps.advance.bind fun _ => ih)
    · exact Keeps.advance.bind fun _ => ih
    · exact .pure _

theorem keeps_start : Keeps start :=
  Keeps.get_bind fun _ => (keeps_directives _).bind fun _ => (Keeps.expect _).bind fun _ =>
    .pure _

theorem keeps_skipEnds : Keeps skipEnds :=
  .modify fun _ => (List.dropWhile_sublist _).subset

theorem keeps_document : Keeps document := by
  have hnode : ∀ handles fuel, Keeps (node handles fuel .block) :=
    fun handles fuel => (keepsNodes handles fuel).node .block
  refine Keeps.get_bind fun p => Keeps.peek.bind fun token => ?_
  split
  · exact .pure _
  · refine .ite ((hnode _ _).bind fun found => ?_) (keeps_start.bind fun handles =>
      Keeps.peek.bind fun next => .ite ((Keeps.pure Node.empty).bind fun found => ?_)
        ((hnode _ _).bind fun found => ?_))
    -- However the node is found, the same may stand behind it.
    all_goals
      refine keeps_skipEnds.bind fun _ => Keeps.peek.bind fun last => ?_
      split
      · exact .pure _
      · exact keeps_start.bind fun _ => .malformed

end Parse

/-- A text whose nodes cannot be read is malformed, or has a number in an escape or in a directive
that is too large. -/
theorem isOfReading_of_ofText {t : Text} {fault : Fault} (h : Node.ofText t = .error fault) :
    fault.IsOfReading := by
  have hends := Parse.keeps_document { tokens := Token.ofText t } (Token.isReadable_ofText t)
  exact hends.of_eq_error (map_eq_error_iff.mp h)

end RouteDoc.Yaml
