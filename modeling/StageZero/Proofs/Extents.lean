import StageZero.Proofs.Placement

/-! Extents of trees. What derives from tokens stands over just these: its span begins where the first of them
starts and ends where the last of them stops, and parts of it stand apart, in the order of the text. -/
namespace StageZero

/-! ### Tokens apart -/

/-- Tokens in the order of a text, each over some of it and none over what another one is over. -/
structure Token.Apart (tokens : List Token) : Prop where
  sized : ∀ token ∈ tokens, token.span.start < token.span.stop
  ordered : tokens.Pairwise fun token later => token.span.stop ≤ later.span.start

namespace Token.Apart
variable {tokens front back : List Token} {token : Token}

theorem sublist (apart : Apart tokens) (less : front.Sublist tokens) : Apart front :=
  ⟨fun token member => apart.sized token (less.mem member), apart.ordered.sublist less⟩

theorem cons_iff : Apart (token :: tokens) ↔
    token.span.start < token.span.stop ∧ (∀ later ∈ tokens, token.span.stop ≤ later.span.start) ∧ Apart tokens := by
  constructor
  · rintro ⟨sized, ordered⟩
    obtain ⟨first, later⟩ := List.forall_mem_cons.mp sized
    obtain ⟨before, behind⟩ := List.pairwise_cons.mp ordered
    exact ⟨first, before, later, behind⟩
  · rintro ⟨first, before, later, behind⟩
    exact ⟨List.forall_mem_cons.mpr ⟨first, later⟩, List.pairwise_cons.mpr ⟨before, behind⟩⟩

theorem append_iff : Apart (front ++ back) ↔
    Apart front ∧ Apart back ∧ ∀ token ∈ front, ∀ later ∈ back, token.span.stop ≤ later.span.start := by
  constructor
  · rintro ⟨sized, ordered⟩
    obtain ⟨sizedFront, sizedBack⟩ := List.forall_mem_append.mp sized
    obtain ⟨orderedFront, orderedBack, across⟩ := List.pairwise_append.mp ordered
    exact ⟨⟨sizedFront, orderedFront⟩, ⟨sizedBack, orderedBack⟩, across⟩
  · rintro ⟨⟨sizedFront, orderedFront⟩, ⟨sizedBack, orderedBack⟩, across⟩
    exact ⟨List.forall_mem_append.mpr ⟨sizedFront, sizedBack⟩,
      List.pairwise_append.mpr ⟨orderedFront, orderedBack, across⟩⟩

end Token.Apart

theorem scan_apart (file : FileId) (text : String) : Token.Apart (scan file text).stream.tokens where
  sized token member := by
    obtain ⟨-, word, back, holds, fits⟩ := Token.holds_of_scan member
    exact holds.lt fits.1
  ordered := List.pairwise_map.mp (List.pairwise_append.mp (scan_laid file text).ordered).1

/-- A span from where the first of some tokens starts to where the last of them stops. -/
def Span.Over (span : Span) (tokens : List Token) : Prop :=
  ∃ first last, tokens.head? = some first ∧ tokens.getLast? = some last ∧
    span = ⟨first.span.file, first.span.start, last.span.stop⟩

/-- A span that does not go beyond some tokens. -/
def Span.Inside (span : Span) (tokens : List Token) : Prop :=
  ∃ first ∈ tokens, ∃ last ∈ tokens, first.span.start ≤ span.start ∧ span.stop ≤ last.span.stop

theorem Span.Over.inside {span : Span} {tokens : List Token} (runs : span.Over tokens) : span.Inside tokens := by
  obtain ⟨first, last, front, back, rfl⟩ := runs
  exact ⟨first, List.mem_of_head? front, last, List.mem_of_getLast? back, Nat.le_refl _, Nat.le_refl _⟩

/-- A span from a token up to what stands behind it. -/
theorem Span.Over.cover {span : Span} {token : Token} {gap back : List Token} (runs : span.Over back)
    (apart : Token.Apart (token :: (gap ++ back))) : (token.span.cover span).Over (token :: (gap ++ back)) := by
  obtain ⟨first, last, front, ends, rfl⟩ := runs
  obtain ⟨sized, before, apart⟩ := Token.Apart.cons_iff.mp apart
  have behindFirst := List.mem_append_right gap (List.mem_of_head? front)
  have behindLast := List.mem_append_right gap (List.mem_of_getLast? ends)
  have starts := Nat.le_trans (Nat.le_of_lt sized) (before first behindFirst)
  have stops := Nat.le_trans (before last behindLast) (Nat.le_of_lt (apart.sized last behindLast))
  refine ⟨token, last, rfl, ?_, ?_⟩
  · rw [← List.cons_append, List.getLast?_append_of_ne_nil, ends]
    rintro rfl
    cases ends
  · rw [Span.cover, Nat.min_eq_left starts, Nat.max_eq_right stops]

/-- What does not go beyond the tokens between two others stands between those. -/
theorem Span.Inside.between {span : Span} {opening closing : Token} {inner : List Token} (inside : span.Inside inner)
    (apart : Token.Apart (opening :: (inner ++ [closing]))) :
    opening.span.stop ≤ span.start ∧ span.stop ≤ closing.span.start := by
  obtain ⟨first, begins, last, ends, starts, stops⟩ := inside
  obtain ⟨-, before, apart⟩ := Token.Apart.cons_iff.mp apart
  obtain ⟨-, -, behind⟩ := Token.Apart.append_iff.mp apart
  have opened := before first (List.mem_append_left _ begins)
  have closed := behind last ends closing (List.mem_singleton_self _)
  exact ⟨Nat.le_trans opened starts, Nat.le_trans stops closed⟩

theorem Span.Inside.mono {span : Span} {tokens others : List Token} (inside : span.Inside tokens)
    (more : tokens ⊆ others) : span.Inside others := by
  obtain ⟨first, front, last, back, bounds⟩ := inside
  exact ⟨first, more front, last, more back, bounds⟩

/-! ### One behind the other -/

/-- Things that derive from parts of some tokens, one behind the other. -/
inductive InTurn {α : Type} (derives : List Token → α → Prop) : List Token → List α → Prop
  | nil {tokens} : InTurn derives tokens []
  | cons {front own back a more} : derives own a → InTurn derives back more →
      InTurn derives (front ++ (own ++ back)) (a :: more)

namespace InTurn
variable {α : Type} {derives : List Token → α → Prop} {tokens : List Token} {all : List α}

theorem first {own back : List Token} {a : α} {more : List α} (derived : derives own a)
    (later : InTurn derives back more) : InTurn derives (own ++ back) (a :: more) :=
  @cons α derives [] own back a more derived later

theorem behind (inTurn : InTurn derives tokens all) (front : List Token) : InTurn derives (front ++ tokens) all := by
  cases inTurn with
  | nil => exact .nil
  | cons first later =>
      rw [← List.append_assoc]
      exact .cons first later

theorem before (inTurn : InTurn derives tokens all) (back : List Token) : InTurn derives (tokens ++ back) all := by
  induction inTurn with
  | nil => exact .nil
  | cons first _ ih =>
      rw [List.append_assoc, List.append_assoc]
      exact .cons first ih

theorem exists_part (inTurn : InTurn derives tokens all) {a : α} (member : a ∈ all) :
    ∃ own, own <:+: tokens ∧ derives own a := by
  induction inTurn with
  | nil => exact absurd member List.not_mem_nil
  | @cons front own back b more first _ ih =>
      rcases List.mem_cons.mp member with rfl | later
      · exact ⟨own, ⟨front, back, List.append_assoc ..⟩, first⟩
      · obtain ⟨part, infix_, derived⟩ := ih later
        exact ⟨part, infix_.trans (List.suffix_append_of_suffix (List.suffix_append own back)).isInfix, derived⟩

/-- What derives one behind the other stands one behind the other. -/
theorem pairwise (inTurn : InTurn derives tokens all) (apart : Token.Apart tokens) {place : α → Span}
    (inside : ∀ own a, Token.Apart own → derives own a → (place a).Inside own) :
    all.Pairwise fun a later => (place a).stop ≤ (place later).start := by
  induction inTurn with
  | nil => exact .nil
  | @cons front own back a more first later ih =>
      obtain ⟨-, apart, -⟩ := Token.Apart.append_iff.mp apart
      obtain ⟨apartFirst, apartLater, across⟩ := Token.Apart.append_iff.mp apart
      refine List.pairwise_cons.mpr ⟨fun b member => ?_, ih apartLater⟩
      -- the first stops in front of some token of its own, which is in front of all those of the later ones
      obtain ⟨-, -, last, ends, -, stops⟩ := inside own a apartFirst first
      obtain ⟨part, infix_, derived⟩ := later.exists_part member
      obtain ⟨next, begins, -, -, starts, -⟩ := inside part b (apartLater.sublist infix_.sublist) derived
      exact Nat.le_trans stops (Nat.le_trans (across last ends next (infix_.mem begins)) starts)

end InTurn

/-! ### What derives -/

namespace Tree

/-- An expression that stands in another one, or is that one. -/
inductive Expression.Within (node : Expression) : Expression → Prop
  | self : Within node node
  | argument {callee items item span} : item ∈ items → Within node item → Within node (.call callee items span)

def Expression.arguments : Expression → List Expression
  | .call _ items _ => items
  | .variable .. | .number .. | .quotation .. | .garbage _ => []

/-- What a statement evaluates. -/
def Statement.value? : Statement → Option Expression
  | .let _ _ value | .expression value => some value
  | .return value _ => value

/-- The tokens that a statement spans. A binding runs from its name. -/
def Statement.extent (statement : Statement) (tokens : List Token) : List Token :=
  match statement with
  | .let .. => tokens.tail
  | .return .. | .expression _ => tokens

theorem Statement.extent_suffix (statement : Statement) (tokens : List Token) :
    statement.extent tokens <:+ tokens := by
  cases statement with
  | «let» => exact List.tail_suffix tokens
  | «return» | expression => exact List.suffix_refl tokens

/-- An expression of a file, at any depth. -/
def File.Holds (file : File) (node : Expression) : Prop :=
  ∃ function ∈ file.functions, ∃ statement ∈ function.body, ∃ value ∈ statement.value?, node.Within value

end Tree

namespace Tree.Grammar
variable {tokens : List Token}

/-- A call spans its tokens up to its closing parenthesis, anything else spans its only token. -/
theorem Expression.span_over {tree : Tree.Expression} (derived : Expression tokens tree) (apart : Token.Apart tokens) :
    tree.span.Over tokens := by
  cases derived with
  | @number _ span | @quotation _ span | @garbage span | @«variable» _ span => exact ⟨_, _, rfl, rfl, rfl⟩
  | @call _ span opening gap listed _ closing =>
      have last : closing.Over [⟨.closeParen, closing⟩] := ⟨_, _, rfl, rfl, rfl⟩
      exact @Span.Over.cover _ ⟨.name _, span⟩ (⟨.openParen, opening⟩ :: (gap ++ listed)) _ last apart

theorem Items.inTurn {tokens : List Token} {items : List Tree.Expression} :
    Items tokens items → InTurn Expression tokens items
  | .last item _ => .first item .nil
  | .more item _ _ later => by
      rw [List.append_assoc]
      exact .first item (((later.inTurn.behind _).behind [_]).behind _)

theorem Arguments.inTurn {items : List Tree.Expression} (derived : Arguments tokens items) :
    InTurn Expression tokens items := by
  cases derived with
  | none => exact .nil
  | some listed => exact listed.inTurn

theorem Expression.inTurn {tree : Tree.Expression} (derived : Expression tokens tree) : tree.arguments = [] ∨
    ∃ name inner closing, tokens = name :: (inner ++ [closing]) ∧ InTurn Expression inner tree.arguments := by
  cases derived with
  | number | quotation | garbage | «variable» => exact .inl rfl
  | call newlines arguments => exact .inr ⟨_, _ :: (_ ++ _), _, rfl, (arguments.inTurn.behind _).behind [_]⟩

theorem Statements.inTurn {statements : List Tree.Statement} (derived : Statements tokens statements) :
    InTurn Statement tokens statements := by
  induction derived with
  | last statement => exact .first statement .nil
  | more statement _ _ _ ih =>
      rw [List.append_assoc]
      exact .first statement (ih.behind _)

theorem Functions.inTurn {functions : List Tree.Function} (derived : Functions tokens functions) :
    InTurn Function tokens functions := by
  induction derived with
  | none => exact .nil
  | more function _ _ ih =>
      rw [List.append_assoc]
      exact .first function (ih.behind _)

theorem Block.inTurn {body : List Tree.Statement} (derived : Block tokens body) : ∃ opening inner closing,
    tokens = ⟨.openBrace, opening⟩ :: (inner ++ [⟨.closeBrace, closing⟩]) ∧ InTurn Statement inner body := by
  cases derived with
  | empty => exact ⟨_, _, _, rfl, .nil⟩
  | full _ statements => exact ⟨_, _, _, rfl, statements.inTurn.behind _⟩

theorem Function.block {function : Tree.Function} (derived : Function tokens function) :
    ∃ block, block <:+ tokens ∧ Block block function.body := by
  cases derived with
  | @plain start name span opening closing gap block _ _ body =>
      exact ⟨block, List.suffix_append ([_, _, _, _] ++ gap) block, body⟩
  | @typed start name span opening closing arrow type typeSpan gap block _ _ body =>
      exact ⟨block, List.suffix_append ([_, _, _, _, _, _] ++ gap) block, body⟩

theorem File.function {file : Tree.File} (derived : File tokens file) {function : Tree.Function}
    (member : function ∈ file.functions) : ∃ own, own <:+: tokens ∧ Function own function := by
  obtain ⟨_, functions⟩ := derived
  exact (functions.inTurn.behind _).exists_part member

theorem File.block {file : Tree.File} (derived : File tokens file) {function : Tree.Function}
    (member : function ∈ file.functions) : ∃ block, block <:+: tokens ∧ Block block function.body := by
  obtain ⟨own, infix_, whole⟩ := derived.function member
  obtain ⟨block, suffix, body⟩ := whole.block
  exact ⟨block, suffix.isInfix.trans infix_, body⟩

theorem Block.statement {body : List Tree.Statement} (derived : Block tokens body) {statement : Tree.Statement}
    (member : statement ∈ body) : ∃ own, own <:+: tokens ∧ Statement own statement := by
  obtain ⟨opening, inner, closing, rfl, inTurn⟩ := derived.inTurn
  exact ((inTurn.before _).behind [_]).exists_part member

theorem Statement.value {statement : Tree.Statement} (derived : Statement tokens statement) {value : Tree.Expression}
    (some : value ∈ statement.value?) : ∃ own, own <:+ tokens ∧ Expression own value := by
  cases derived with
  | «let» initial => exact ⟨_, List.suffix_append [_, _, _] _, Option.some.inj some ▸ initial⟩
  | returnNothing => exact absurd some nofun
  | «return» returned => exact ⟨_, List.suffix_append [_] _, Option.some.inj some ▸ returned⟩
  | expression alone => exact ⟨_, List.suffix_refl _, Option.some.inj some ▸ alone⟩

theorem Expression.part {node tree : Tree.Expression} (within : node.Within tree) (derived : Expression tokens tree) :
    ∃ own, own <:+: tokens ∧ Expression own node := by
  induction within generalizing tokens with
  | self => exact ⟨tokens, List.infix_refl tokens, derived⟩
  | argument member _ ih =>
      cases derived with
      | call newlines arguments =>
          obtain ⟨outer, around, item⟩ := (((arguments.inTurn.behind _).before _).behind [_, _]).exists_part member
          obtain ⟨own, infix_, node⟩ := ih item
          exact ⟨own, infix_.trans around, node⟩

theorem File.expression {file : Tree.File} (derived : File tokens file) {node : Tree.Expression}
    (held : file.Holds node) : ∃ own, own <:+: tokens ∧ Expression own node := by
  obtain ⟨function, member, statement, inBody, value, some, within⟩ := held
  obtain ⟨block, blockInfix, body⟩ := derived.block member
  obtain ⟨line, lineInfix, whole⟩ := body.statement inBody
  obtain ⟨outer, suffix, root⟩ := whole.value some
  obtain ⟨own, infix_, node⟩ := root.part within
  exact ⟨own, infix_.trans (suffix.isInfix.trans (lineInfix.trans blockInfix)), node⟩

/-- The arguments of a call stand inside it, one behind the other. -/
theorem Expression.arguments_turn {tree : Tree.Expression} (derived : Expression tokens tree)
    (apart : Token.Apart tokens) :
    (∀ item ∈ tree.arguments, tree.span.start < item.span.start ∧ item.span.stop < tree.span.stop) ∧
      tree.arguments.Pairwise fun item later => item.span.stop ≤ later.span.start := by
  obtain ⟨first, last, front, back, spans⟩ := derived.span_over apart
  rw [spans]
  obtain none | ⟨name, inner, closing, rfl, inTurn⟩ := derived.inTurn
  · rw [none]
    exact ⟨List.forall_mem_nil _, .nil⟩
  · rw [← List.cons_append, List.getLast?_concat] at back
    cases front
    cases back
    have apartInner := apart.sublist ((List.sublist_append_left inner [last]).cons first)
    refine ⟨fun item member => ?_,
      inTurn.pairwise apartInner fun own item apart derived => (derived.span_over apart).inside⟩
    obtain ⟨own, infix_, itemDerived⟩ := inTurn.exists_part member
    have inside := (itemDerived.span_over (apartInner.sublist infix_.sublist)).inside.mono infix_.subset
    obtain ⟨opened, closed⟩ := inside.between apart
    have before := apart.sized first (List.mem_cons_self ..)
    have behind := apart.sized last (by simp)
    exact ⟨Nat.lt_of_lt_of_le before opened, Nat.lt_of_le_of_lt closed behind⟩

/-- A statement spans its tokens, but for the keyword of a binding. -/
theorem Statement.span_over {statement : Tree.Statement} (derived : Statement tokens statement)
    (apart : Token.Apart tokens) : statement.span.Over (statement.extent tokens) := by
  cases derived with
  | @«let» start name span equals _ _ initial =>
      obtain ⟨-, -, apart⟩ := Token.Apart.cons_iff.mp apart
      have runs := initial.span_over (apart.sublist (List.suffix_append [_, _] _).sublist)
      exact @Span.Over.cover _ ⟨.name name, span⟩ [⟨.equals, equals⟩] _ runs apart
  | returnNothing => exact ⟨_, _, rfl, rfl, rfl⟩
  | @«return» span _ _ value =>
      obtain ⟨-, -, behind⟩ := Token.Apart.cons_iff.mp apart
      exact @Span.Over.cover _ ⟨.return, span⟩ [] _ (value.span_over behind) apart
  | expression value => exact value.span_over apart

theorem Statement.inside {statement : Tree.Statement} (derived : Statement tokens statement)
    (apart : Token.Apart tokens) : statement.span.Inside tokens :=
  (derived.span_over apart).inside.mono (statement.extent_suffix tokens).subset

/-- The statements of a block stand between its braces, one behind the other. -/
theorem Block.turn {body : List Tree.Statement} (derived : Block tokens body) (apart : Token.Apart tokens) :
    ∃ opening inner closing, tokens = ⟨.openBrace, opening⟩ :: (inner ++ [⟨.closeBrace, closing⟩]) ∧
      (∀ statement ∈ body, opening.stop ≤ statement.span.start ∧ statement.span.stop ≤ closing.start) ∧
      body.Pairwise fun statement later => statement.span.stop ≤ later.span.start := by
  obtain ⟨opening, inner, closing, rfl, inTurn⟩ := derived.inTurn
  have apartInner := apart.sublist ((List.sublist_append_left inner [_]).cons _)
  refine ⟨opening, inner, closing, rfl, fun statement member => ?_,
    inTurn.pairwise apartInner fun own statement apart derived => derived.inside apart⟩
  obtain ⟨own, infix_, whole⟩ := inTurn.exists_part member
  exact ((whole.inside (apartInner.sublist infix_.sublist)).mono infix_.subset).between apart

end Tree.Grammar

namespace Tree

/-- The spans in a file are those of the tokens that its parts derive from, and they are nested as the parts are. -/
structure File.Exact (file : File) (tokens : List Token) : Prop where
  expressions : ∀ node, file.Holds node →
    ∃ own, own <:+: tokens ∧ Grammar.Expression own node ∧ node.span.Over own
  arguments : ∀ node, file.Holds node →
    (∀ item ∈ node.arguments, node.span.start < item.span.start ∧ item.span.stop < node.span.stop) ∧
      node.arguments.Pairwise fun item later => item.span.stop ≤ later.span.start
  statements : ∀ function ∈ file.functions, ∀ statement ∈ function.body,
    ∃ own, own <:+: tokens ∧ Grammar.Statement own statement ∧ statement.span.Over (statement.extent own)
  bodies : ∀ function ∈ file.functions, ∃ opening inner closing,
    ⟨.openBrace, opening⟩ :: (inner ++ [⟨.closeBrace, closing⟩]) <:+: tokens ∧
      Grammar.Block (⟨.openBrace, opening⟩ :: (inner ++ [⟨.closeBrace, closing⟩])) function.body ∧
      (∀ statement ∈ function.body, opening.stop ≤ statement.span.start ∧ statement.span.stop ≤ closing.start) ∧
      function.body.Pairwise fun statement later => statement.span.stop ≤ later.span.start

theorem Grammar.File.exact {tokens : List Token} {file : Tree.File} (derived : File tokens file)
    (apart : Token.Apart tokens) : file.Exact tokens where
  expressions node held := by
    obtain ⟨own, infix_, whole⟩ := derived.expression held
    exact ⟨own, infix_, whole, whole.span_over (apart.sublist infix_.sublist)⟩
  arguments node held := by
    obtain ⟨own, infix_, whole⟩ := derived.expression held
    exact whole.arguments_turn (apart.sublist infix_.sublist)
  statements function member statement inBody := by
    obtain ⟨block, around, body⟩ := derived.block member
    obtain ⟨own, infix_, whole⟩ := body.statement inBody
    have there := infix_.trans around
    exact ⟨own, there, whole, whole.span_over (apart.sublist there.sublist)⟩
  bodies function member := by
    obtain ⟨block, infix_, body⟩ := derived.block member
    obtain ⟨opening, inner, closing, rfl, between, turn⟩ := body.turn (apart.sublist infix_.sublist)
    exact ⟨opening, inner, closing, infix_, body, between, turn⟩

end Tree

/-- The tree of a text that is read without a fault has exact spans. -/
theorem exact_of_parsed (file : FileId) (text : String) (clean : (parse (scan file text).stream).faults = []) :
    (treeOf file text).Exact (scan file text).stream.tokens :=
  (Tree.functions_derives _ _ clean).exact (scan_apart file text)

open Tree.Grammar in
theorem exact_of_parsed_call :
    let text := "function f() \x7b return g(1,\n2) \x7d"
    (parse (scan ⟨0⟩ text).stream).faults = [] ∧ (treeOf ⟨0⟩ text).Exact (scan ⟨0⟩ text).stream.tokens := by
  intro text
  let place (start stop : Nat) : Span := ⟨⟨0⟩, start, stop⟩
  let called : Tree.Expression := .call "g" [.number 1 (place 24 25), .number 2 (place 27 28)] (place 22 29)
  have tokens : (scan ⟨0⟩ text).stream.tokens = [
      ⟨.function, place 0 8⟩, ⟨.name "f", place 9 10⟩, ⟨.openParen, place 10 11⟩, ⟨.closeParen, place 11 12⟩,
      ⟨.openBrace, place 13 14⟩, ⟨.return, place 15 21⟩, ⟨.name "g", place 22 23⟩, ⟨.openParen, place 23 24⟩,
      ⟨.number 1, place 24 25⟩, ⟨.comma, place 25 26⟩, ⟨.newline, place 26 27⟩, ⟨.number 2, place 27 28⟩,
      ⟨.closeParen, place 28 29⟩, ⟨.closeBrace, place 30 31⟩] := by
    decide +kernel
  have blank : Newlines [] := List.forall_mem_nil _
  have broken : Newlines [⟨.newline, place 26 27⟩] := List.forall_mem_singleton.mpr rfl
  have separated : Separators [] := List.forall_mem_nil _
  have derived : File (scan ⟨0⟩ text).stream.tokens
      ⟨[⟨"f", place 9 10, none, [.return (some called) (place 15 29)]⟩]⟩ := by
    rw [tokens]
    exact (.file blank (.more (.plain blank (.full separated (.last (.return (.call blank
      (.some (.more .number blank broken (.last .number blank))))) separated))) blank .none) : File _ _)
  have clean := ((Tree.functions_iff (scan ⟨0⟩ text).stream.stop _ _).mp derived).1
  exact ⟨clean, exact_of_parsed ⟨0⟩ text clean⟩

end StageZero
