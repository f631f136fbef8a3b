import StageZero.Proofs.Sources
import StageZero.Proofs.Tiling
import StageZero.Proofs.UniformChecking
import StageZero.Proofs.UniformReading

/-! Tokens of a text stand apart from each other, and the names of definitions are tokens of their own, in the order
of the text. So the one decision that checking takes by places is decided in the same way for texts whose tokens are
alike, and from there on everything that is made of them is alike. -/
namespace StageZero
namespace Tree

variable {stop : Span} {input : List Token}

theorem Reading.rest_sublist {α : Type} (reading : Reading α input) :
    (reading.rest.map Token.span).Sublist (input.map Token.span) := reading.isSuffix.sublist.map _

/-- The name in a header is a token in front of what the header leaves. -/
theorem header_name {head : Header} (value : (header stop input).value = some head) :
    (head.nameSpan :: (header stop input).rest.map Token.span).Sublist (input.map Token.span) := by
  fun_cases header stop input with
  | case1 name span opening closing arrow type typeSpan rest =>
      cases Option.some.inj value
      exact (List.suffix_append [opening, closing, arrow, typeSpan] _).sublist.cons_cons span
  | case3 name span opening closing rest notArrow =>
      rw [header] at value ⊢
      · cases Option.some.inj value
        exact (List.suffix_append [opening, closing] _).sublist.cons_cons span
      all_goals exact notArrow
  -- the other headers are broken, and have no name
  | case2 name span opening closing arrow rest notType =>
      rw [header] at value
      · cases value
      all_goals exact notType
  | case4 name span opening rest notClose =>
      rw [header] at value
      · cases value
      all_goals exact notClose
  | case5 name span rest notOpen =>
      rw [header] at value
      · cases value
      all_goals exact notOpen
  | case6 input notName =>
      rw [header] at value
      · cases value
      all_goals exact notName

theorem function_value_of_none (none : (header stop input).value = .none) : (function stop input).value = .none := by
  unfold function
  dsimp only
  split
  case h_1 found => exact absurd (none.symm.trans found) nofun
  case h_2 => split <;> rfl

theorem function_name {definition : Function} (value : (function stop input).value = some definition) :
    (definition.nameSpan :: (function stop input).rest.map Token.span).Sublist (input.map Token.span) := by
  cases front : (header stop input).value with
  | none => exact absurd (value.symm.trans (function_value_of_none front)) nofun
  | some head =>
      have read := function_of_some front
      have left : (function stop input).rest = (block stop (skipNewlines (header stop input).rest)).rest :=
        congrArg Read.rest read
      have named : some definition = some ⟨head.name, head.nameSpan, head.returnType, _⟩ :=
        value.symm.trans (congrArg Read.value read)
      cases named
      rw [left]
      have behind := (block stop (skipNewlines (header stop input).rest)).isSuffix.trans (skipNewlines_suffix _)
      exact ((behind.sublist.map _).cons_cons _).trans (header_name front)

theorem sublist_of_skipNewlines {token : Token} {rest : List Token} (shape : skipNewlines input = token :: rest) :
    (rest.map Token.span).Sublist (input.map Token.span) := by
  have skipped := (skipNewlines_suffix input).sublist.map Token.span
  rw [shape] at skipped
  exact (List.sublist_cons_self ..).trans skipped

/-- The names of the definitions that are read are tokens, no token twice. -/
theorem functions_names (stop : Span) (input : List Token) :
    ((functions stop input).file.functions.map Function.nameSpan).Sublist (input.map Token.span) := by
  induction input using functions.induct stop with
  | case1 input shape =>
      rw [functions_eq, shape]
      exact List.nil_sublist _
  | case2 input token rest shape isKeyword first ih =>
      rw [functions_eq, shape]
      dsimp only
      rw [if_pos isKeyword]
      refine List.Sublist.trans ?_ (sublist_of_skipNewlines shape)
      dsimp only
      rw [List.map_append]
      cases value : (function stop rest).value with
      | none => exact ih.trans first.rest_sublist
      | some definition => exact (ih.cons_cons _).trans (function_name value)
  | case3 input token rest shape notKeyword ih =>
      rw [functions_eq, shape]
      dsimp only
      rw [if_neg notKeyword]
      refine List.Sublist.trans ?_ (sublist_of_skipNewlines shape)
      exact ih.trans ((List.dropWhile_suffix _).sublist.map _)

end Tree

theorem Token.mark_mem {stream : Stream} {token : Token} (member : token ∈ stream.tokens) :
    token.mark ∈ stream.marks := List.mem_append_left _ (List.mem_map_of_mem member)

/-- A token of a text stands over some of its characters, and not over none. -/
theorem Token.holds_of_scan {file : FileId} {text : String} {token : Token}
    (member : token ∈ (scan file text).stream.tokens) :
    token.span.file = file ∧ ∃ word back,
      Text.Holds text.toList token.span.start token.span.stop word back ∧ token.symbol.Fits word :=
  (scan_laid file text).words token.mark (Token.mark_mem member) token.symbol rfl

theorem scan_spans_nodup (file : FileId) (text : String) :
    ((scan file text).stream.tokens.map Token.span).Nodup := by
  have ordered := (List.pairwise_append.mp (scan_laid file text).ordered).1
  rw [List.pairwise_map] at ordered
  rw [List.nodup_iff_pairwise_ne, List.pairwise_map]
  refine ordered.imp_of_mem fun {token later} member _ apart same => ?_
  obtain ⟨_, word, _, holds, fits⟩ := Token.holds_of_scan member
  have nonempty := holds.lt fits.1
  change token.span.stop ≤ later.span.start at apart
  rw [← same] at apart
  omega

theorem treeOf_names_nodup (file : FileId) (text : String) :
    ((treeOf file text).functions.map Tree.Function.nameSpan).Nodup :=
  (scan_spans_nodup file text).sublist (Tree.functions_names _ _)

/-- Texts whose tokens are alike are checked alike. -/
theorem check_alike_of_scan {R : Span → Span → Prop} (covers : Span.Covers R) {file id : FileId}
    (start : R ⟨file, 0, 0⟩ ⟨id, 0, 0⟩) {text other : String}
    (alike : (scan file text).stream.Alike R (scan id other).stream) :
    (check file (treeOf file text)).Alike R (Program.Alike R) (check id (treeOf id other)) :=
  check_alike covers start (parse_alike covers alike).file (treeOf_names_nodup file text) (treeOf_names_nodup id other)

end StageZero
