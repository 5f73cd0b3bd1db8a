import Mathlib.Data.List.Forall2
import Chip8.Document.Lexer
import Chip8.Proofs.Document.Token

/-!
# Tokens of written nodes

Reading a node from its characters yields its tokens (`Token.listOfText?_chars`). Candidates for
keys are given up at any time, in the collection at hand and in all around it (`Lexer.Sheds`); no
colon needs one, because every key has a mark of its own. So what reading a node preserves is that
no candidate has to become a key (`Lexer.IsFree`) and that none appears where no key may start
(`Lexer.ReadsNode`).
-/

namespace Chip8.Document

/-! ## Candidates -/

/-- A candidate is kept or given up. -/
def Candidate.IsShed (before after : Option Candidate) : Prop := after = none ∨ after = before

namespace Candidate

theorem IsShed.refl (candidate? : Option Candidate) : IsShed candidate? candidate? := .inr rfl

theorem IsShed.trans {first second third : Option Candidate} (shed : IsShed first second)
    (onward : IsShed second third) : IsShed first third := by
  rcases onward with rfl | rfl
  · exact .inl rfl
  · exact shed

theorem forall₂_trans {first second third : List (Option Candidate)}
    (shed : List.Forall₂ IsShed first second) (onward : List.Forall₂ IsShed second third) :
    List.Forall₂ IsShed first third := by
  induction shed generalizing third with
  | nil => exact onward
  | cons own _ ih =>
    cases onward with
    | cons ownLater later => exact .cons (own.trans ownLater) (ih later)

/-- The candidate, if there is one, does not have to become a key. -/
def IsOptional (candidate? : Option Candidate) : Prop :=
  ∀ candidate ∈ candidate?, candidate.required = false

theorem IsShed.isOptional {before after : Option Candidate} (shed : IsShed before after)
    (optional : IsOptional before) : IsOptional after := by
  rcases shed with rfl | rfl
  · exact nofun
  · exact optional

theorem isOptional_of_forall₂ {before after : List (Option Candidate)}
    (shed : List.Forall₂ IsShed before after)
    (optional : ∀ candidate? ∈ before, IsOptional candidate?) :
    ∀ candidate? ∈ after, IsOptional candidate? := by
  induction shed with
  | nil => exact optional
  | cons first _ ih =>
    rw [List.forall_mem_cons] at optional ⊢
    exact ⟨first.isOptional optional.1, ih optional.2⟩

end Candidate

namespace Lexer

/-- No block collection is open, and no candidate has to become a key. -/
structure IsFree (lexer : Lexer) : Prop where
  columns : lexer.columns = []
  candidate : Candidate.IsOptional lexer.candidate?
  outer : ∀ candidate? ∈ lexer.outer, Candidate.IsOptional candidate?

/-- The open flow collections are the same, but for candidates that were given up. -/
def Keeps (lexer later : Lexer) : Prop :=
  List.Forall₂ Candidate.IsShed lexer.outer later.outer

theorem Keeps.refl (lexer : Lexer) : lexer.Keeps lexer :=
  List.forall₂_same.mpr fun candidate? _ => Candidate.IsShed.refl candidate?

theorem Keeps.trans {lexer middle later : Lexer} (keeps : lexer.Keeps middle)
    (onward : middle.Keeps later) : lexer.Keeps later :=
  Candidate.forall₂_trans keeps onward

theorem Keeps.inFlow {lexer later : Lexer} (keeps : lexer.Keeps later) :
    later.inFlow = lexer.inFlow := by
  have length := List.Forall₂.length_eq keeps
  rw [Lexer.inFlow, Lexer.inFlow, ← Bool.not_inj_iff, Bool.not_not, Bool.not_not, Bool.eq_iff_iff,
    List.isEmpty_iff_length_eq_zero, List.isEmpty_iff_length_eq_zero, length]

/-- Two lexers differ at most in candidates that were given up. -/
structure Sheds (lexer later : Lexer) : Prop where
  cursor : later.cursor = lexer.cursor
  tokens : later.tokens = lexer.tokens
  keyAllowed : later.keyAllowed = lexer.keyAllowed
  columns : later.columns = lexer.columns
  candidate : Candidate.IsShed lexer.candidate? later.candidate?
  keeps : lexer.Keeps later

theorem Sheds.isFree {lexer later : Lexer} (sheds : lexer.Sheds later) (free : lexer.IsFree) :
    later.IsFree where
  columns := by rw [sheds.columns, free.columns]
  candidate := sheds.candidate.isOptional free.candidate
  outer := Candidate.isOptional_of_forall₂ sheds.keeps free.outer

theorem kept?_of_isOptional (cursor : Cursor) {candidate? : Option Candidate}
    (optional : Candidate.IsOptional candidate?) :
    ∃ later, Candidate.kept? cursor candidate? = some later ∧
      Candidate.IsShed candidate? later := by
  cases candidate? with
  | none => exact ⟨none, rfl, .inl rfl⟩
  | some candidate =>
    rw [Candidate.kept?]
    split
    · exact ⟨_, rfl, .inr rfl⟩
    · rw [optional candidate rfl]
      exact ⟨none, rfl, .inl rfl⟩

theorem mapM_kept?_of_isOptional (cursor : Cursor) {outer : List (Option Candidate)}
    (optional : ∀ candidate? ∈ outer, Candidate.IsOptional candidate?) :
    ∃ later, outer.mapM (Candidate.kept? cursor) = some later ∧
      List.Forall₂ Candidate.IsShed outer later := by
  induction outer with
  | nil => exact ⟨[], rfl, .nil⟩
  | cons first rest ih =>
    rw [List.forall_mem_cons] at optional
    obtain ⟨own, kept, shed⟩ := kept?_of_isOptional cursor optional.1
    obtain ⟨others, keptOthers, shedOthers⟩ := ih optional.2
    refine ⟨own :: others, ?_, .cons shed shedOthers⟩
    rw [List.mapM_cons, kept, keptOthers]
    rfl

/-- The character neither is passed over in front of a token nor starts a comment. -/
def isSolid (char : Char) : Bool := !isBreak char && char ∉ [' ', '\t', '\uFEFF', '#']

variable {lexer later : Lexer} {char : Char} {rest : List Char}

theorem skip_of_isSolid (solid : isSolid char = true) :
    skip (char :: rest) false lexer = lexer := by
  simp only [isSolid, Bool.and_eq_true, Bool.not_eq_true', decide_eq_true_eq, List.mem_cons,
    List.not_mem_nil, or_false, not_or] at solid
  obtain ⟨unbroken, space, tab, order, comment⟩ := solid
  simp [skip, unbroken, isSkipped, space, tab, order, comment]

theorem closeBlocks_of_columns_eq_nil (columns : lexer.columns = []) (closes : Nat → Bool) :
    lexer.closeBlocks closes = lexer := by
  obtain ⟨cursor, tokens, keyAllowed, candidate?, outer, _⟩ := lexer
  subst columns
  rw [closeBlocks]
  split <;> rfl

/-- Where nothing is skipped, going to the next token does no more than give up candidates. -/
theorem advance?_of_skip_eq (free : lexer.IsFree)
    (stays : skip lexer.cursor.rest false lexer = lexer) :
    ∃ ready, lexer.advance? = some ready ∧ lexer.Sheds ready := by
  obtain ⟨own, kept, shed⟩ := kept?_of_isOptional lexer.cursor free.candidate
  obtain ⟨others, keptOthers, shedOthers⟩ := mapM_kept?_of_isOptional lexer.cursor free.outer
  refine ⟨{ lexer with candidate? := own, outer := others }, ?_, rfl, rfl, rfl, rfl, shed,
    shedOthers⟩
  simp only [advance?, stays, kept, keptOthers, Option.bind_eq_bind, Option.bind_some]
  refine congrArg some (closeBlocks_of_columns_eq_nil ?_ _)
  exact free.columns

theorem advance?_of_space (start : lexer.cursor.rest = ' ' :: rest) :
    lexer.advance? = { lexer with cursor := lexer.cursor.tail }.advance? := by
  simp [advance?, start, skip, isBreak, isSkipped]

/-! ## Tokens -/

/-- The lexer without a candidate. -/
def uncommitted (lexer : Lexer) : Lexer := { lexer with candidate? := none }

/-- The lexer with a candidate at its cursor, if a key may start there. -/
def marked (lexer : Lexer) : Lexer :=
  if lexer.keyAllowed then
    { lexer with candidate? := some ⟨lexer.tokens.length, lexer.cursor, false⟩ }
  else lexer

theorem marked_cursor : lexer.marked.cursor = lexer.cursor := by
  rw [marked]
  split <;> rfl

theorem marked_tokens : lexer.marked.tokens = lexer.tokens := by
  rw [marked]
  split <;> rfl

theorem marked_outer : lexer.marked.outer = lexer.outer := by
  rw [marked]
  split <;> rfl

/-- Where no key may start, no candidate is made. -/
theorem Sheds.isShed_marked (sheds : lexer.Sheds later) (barred : lexer.keyAllowed = false) :
    Candidate.IsShed lexer.candidate? later.marked.candidate? := by
  rw [marked, sheds.keyAllowed, barred]
  exact sheds.candidate

theorem withoutCandidate?_of_isFree (free : lexer.IsFree) :
    lexer.withoutCandidate? = some lexer.uncommitted := by
  rw [withoutCandidate?, if_neg]
  · rfl
  · cases held : lexer.candidate? with
    | none => exact Bool.false_ne_true
    | some candidate => simp [free.candidate candidate held]

theorem withCandidate?_of_isFree (free : lexer.IsFree) :
    lexer.withCandidate? = some lexer.marked := by
  rw [withCandidate?, marked]
  split
  · simp [withoutCandidate?_of_isFree free, free.columns, uncommitted]
  · rfl

/-- How a token is read that is, or starts with, a mark of flow style. -/
def markReader? (inFlow : Bool) : Char → Option (Lexer → Option Lexer)
  | '[' => some (·.openFlow? .flowListStart)
  | '\x7b' => some (·.openFlow? .flowMappingStart)
  | ']' => some (·.closeFlow? .flowListEnd)
  | '\x7d' => some (·.closeFlow? .flowMappingEnd)
  | ',' => some separator?
  | '?' => if inFlow then some key? else none
  | ':' => if inFlow then some value? else none
  | '"' => some fun lexer =>
    lexer.scalar? .quoted fun cursor => doubleQuoted? lexer.cursor.rest.length [] cursor.tail
  | _ => none

/-- All branches that marks of flow style take, in one place. -/
theorem next?_of_markReader? {read : Lexer → Option Lexer}
    (start : lexer.cursor.rest = char :: rest)
    (mark : markReader? lexer.inFlow char = some read) : lexer.next? = read lexer := by
  unfold markReader? at mark
  split at mark
  case h_6 | h_7 =>
    split at mark
    · rename_i nested
      cases mark
      simp [next?, Cursor.atMarker, start, nested]
    · cases mark
  case h_9 => cases mark
  all_goals
    cases mark
    simp [next?, Cursor.atMarker, start]

theorem isSolid_of_markReader? {inFlow : Bool} (mark : (markReader? inFlow char).isSome = true) :
    isSolid char = true := by
  unfold markReader? at mark
  split at mark
  case h_9 => cases mark
  all_goals rfl

/-- The lexer behind a bracket that opens a flow collection. -/
def opened (lexer : Lexer) (token : Token) : Lexer :=
  { lexer.marked.pass 1 token true with
    candidate? := none, outer := lexer.marked.candidate? :: lexer.outer }

theorem openFlow?_of_isFree (free : lexer.IsFree) (token : Token) :
    lexer.openFlow? token = some (lexer.opened token) := by
  simp [openFlow?, withCandidate?_of_isFree free, opened, marked_outer, pass]

/-- The lexer behind a bracket that closes a flow collection. -/
def closed (lexer : Lexer) (token : Token) (candidate? : Option Candidate)
    (outer : List (Option Candidate)) : Lexer :=
  { lexer.pass 1 token false with candidate?, outer }

theorem closeFlow?_of_isFree (free : lexer.IsFree) (token : Token) {candidate? : Option Candidate}
    {outer : List (Option Candidate)} (nested : lexer.outer = candidate? :: outer) :
    lexer.closeFlow? token = some (lexer.closed token candidate? outer) := by
  simp [closeFlow?, withoutCandidate?_of_isFree free, closed, uncommitted, pass, nested]

/-- The lexer behind a scalar. -/
def scanned (lexer : Lexer) (token : Token) (next : Cursor) : Lexer :=
  { lexer.marked with cursor := next, tokens := token :: lexer.tokens, keyAllowed := false }

theorem scalar?_of_isFree (free : lexer.IsFree) (token : String → Token)
    {read : Cursor → Option Lexeme} {text : List Char} {next : Cursor}
    (found : read lexer.cursor = some ⟨text, false, next⟩) :
    lexer.scalar? token read = some (lexer.scanned (token (String.ofList text)) next) := by
  simp [scalar?, withCandidate?_of_isFree free, marked_cursor, marked_tokens, found, scanned]

theorem next?_quoted (free : lexer.IsFree) (text : String)
    (start : lexer.cursor.rest = '"' :: (text.toList.flatMap escape ++ '"' :: rest)) :
    ∃ next : Cursor, next.rest = rest ∧
      lexer.next? = some (lexer.scanned (.quoted text) next) := by
  have within : lexer.cursor.tail.rest = text.toList.flatMap escape ++ '"' :: rest := by
    rw [Cursor.rest_tail, start, List.tail_cons]
  have enough : text.toList.length < lexer.cursor.rest.length := by
    have least := length_le_flatMap_escape text.toList
    rw [start, List.length_cons, List.length_append]
    omega
  obtain ⟨next, after, read⟩ := doubleQuoted?_escaped text.toList [] within enough
  refine ⟨next, after, ?_⟩
  rw [next?_of_markReader? start rfl, scalar?_of_isFree free .quoted read, List.reverse_nil,
    List.nil_append, String.ofList_toList]

theorem next?_eq_plainScalar? (inWord : isWordChar char = true)
    (start : lexer.cursor.rest = char :: rest) : lexer.next? = lexer.plainScalar? := by
  have dash : lexer.cursor.atMarker '-' = false :=
    Cursor.atMarker_eq_false start (ne_of_isWordChar inWord rfl)
  have dot : lexer.cursor.atMarker '.' = false :=
    Cursor.atMarker_eq_false start (ne_of_isWordChar inWord rfl)
  rw [next?, dash, dot, start]
  simp only [Bool.false_eq_true, ↓reduceIte]
  split
  all_goals first
    | rfl
    | rename_i mark
      exact absurd (List.cons.inj mark).1 (ne_of_isWordChar inWord rfl)

theorem next?_word (free : lexer.IsFree) {text : String} (word : isWord text = true)
    (start : lexer.cursor.rest = text.toList ++ rest) (ends : Ends lexer.inFlow rest) :
    ∃ next : Cursor, next.rest = rest ∧
      lexer.next? = some (lexer.scanned (.plain text) next) := by
  rw [isWord, Bool.and_eq_true, Bool.not_eq_true', List.isEmpty_eq_false_iff] at word
  obtain ⟨present, inWord⟩ := word
  obtain ⟨next, after, read⟩ := plain?_append present inWord ends lexer.floor start
  refine ⟨next, after, ?_⟩
  obtain ⟨char, later, toList⟩ := List.exists_cons_of_ne_nil present
  rw [toList, List.all_cons, Bool.and_eq_true] at inWord
  rw [toList, List.cons_append] at start
  rw [next?_eq_plainScalar? inWord.1 start, plainScalar?, scalar?_of_isFree free .plain read,
    String.ofList_toList]

/-! ## Runs -/

/-- With any bound that suffices, reading on is reading on from a later lexer. -/
def Leads (lexer later : Lexer) : Prop :=
  ∀ fuel, lexer.cursor.rest.length < fuel →
    ∃ fewer, later.cursor.rest.length < fewer ∧ lexer.run? fuel = later.run? fewer

theorem Leads.refl (lexer : Lexer) : lexer.Leads lexer := fun fuel enough => ⟨fuel, enough, rfl⟩

theorem Leads.trans {last : Lexer} (leads : lexer.Leads later) (onward : later.Leads last) :
    lexer.Leads last := by
  intro fuel enough
  obtain ⟨fewer, still, same⟩ := leads fuel enough
  obtain ⟨fewest, enoughLast, sameLast⟩ := onward fewer still
  exact ⟨fewest, enoughLast, same.trans sameLast⟩

theorem leads_of_space (start : lexer.cursor.rest = ' ' :: rest) :
    lexer.Leads { lexer with cursor := lexer.cursor.tail } := by
  intro fuel enough
  obtain ⟨fuel, rfl⟩ := Nat.exists_eq_add_one_of_ne_zero (Nat.ne_zero_of_lt enough)
  refine ⟨fuel + 1, ?_, ?_⟩
  · rw [Cursor.rest_tail, List.length_tail]
    omega
  · rw [run?, run?, advance?_of_space start]

theorem leads_of_next? {ready : Lexer} (advanced : lexer.advance? = some ready)
    (cursor : ready.cursor = lexer.cursor) (next : ready.next? = some later)
    (shorter : later.cursor.rest.length < lexer.cursor.rest.length) : lexer.Leads later := by
  intro fuel enough
  obtain ⟨fuel, rfl⟩ := Nat.exists_eq_add_one_of_ne_zero (Nat.ne_zero_of_lt enough)
  have more : ready.cursor.rest ≠ [] := by
    rw [cursor]
    exact List.ne_nil_of_length_pos (by omega)
  refine ⟨fuel, by omega, ?_⟩
  simp [run?, advanced, more, next]

/-- Reading on passes tokens, to a lexer in front of a rest. -/
structure Reads (lexer : Lexer) (tokens : List Token) (rest : List Char) (later : Lexer) :
    Prop where
  leads : lexer.Leads later
  rest : later.cursor.rest = rest
  tokens : later.tokens = tokens.reverse ++ lexer.tokens
  free : later.IsFree

theorem Reads.trans {first second : List Token} {middle : Lexer} {between rest : List Char}
    (reads : lexer.Reads first between middle) (onward : middle.Reads second rest later) :
    lexer.Reads (first ++ second) rest later where
  leads := reads.leads.trans onward.leads
  rest := onward.rest
  tokens := by rw [onward.tokens, reads.tokens, List.reverse_append, List.append_assoc]
  free := onward.free

theorem IsFree.pass (free : lexer.IsFree) (count : Nat) (token : Token) (keyAllowed : Bool) :
    (lexer.pass count token keyAllowed).IsFree :=
  ⟨free.columns, free.candidate, free.outer⟩

theorem IsFree.uncommitted (free : lexer.IsFree) : lexer.uncommitted.IsFree :=
  ⟨free.columns, nofun, free.outer⟩

theorem IsFree.marked (free : lexer.IsFree) : lexer.marked.IsFree := by
  rw [Lexer.marked]
  split
  · exact ⟨free.columns, by rintro _ ⟨⟩; rfl, free.outer⟩
  · exact free

theorem IsFree.opened (free : lexer.IsFree) (token : Token) : (lexer.opened token).IsFree :=
  ⟨free.marked.columns, nofun, List.forall_mem_cons.mpr ⟨free.marked.candidate, free.outer⟩⟩

/-- A lexer in front of a token is ready to read it once it gave up candidates. -/
theorem exists_ready (free : lexer.IsFree) (start : lexer.cursor.rest = char :: rest)
    (solid : isSolid char = true) :
    ∃ ready : Lexer, lexer.Sheds ready ∧ ready.IsFree ∧ ready.cursor.rest = char :: rest ∧
      ∀ (token : Token) (later : Lexer) (left : List Char), ready.next? = some later →
        later.IsFree → later.tokens = token :: ready.tokens → later.cursor.rest = left →
          left.length ≤ rest.length → lexer.Reads [token] left later := by
  obtain ⟨ready, advanced, sheds⟩ :=
    advance?_of_skip_eq free (by rw [start, skip_of_isSolid solid])
  refine ⟨ready, sheds, sheds.isFree free, by rw [sheds.cursor, start], ?_⟩
  intro token later left next freeLater tokens after shorter
  have leads : lexer.Leads later := by
    apply leads_of_next? advanced sheds.cursor next
    rw [start, after]
    exact Nat.lt_succ_of_le shorter
  exact ⟨leads, after, by rw [tokens, sheds.tokens]; rfl, freeLater⟩

theorem rest_pass (start : lexer.cursor.rest = char :: rest) (token : Token) (keyAllowed : Bool) :
    (lexer.pass 1 token keyAllowed).cursor.rest = rest := by
  simp [pass, start]

/-- A separator leaves no candidate. -/
theorem reads_comma (free : lexer.IsFree) (start : lexer.cursor.rest = ',' :: rest) :
    ∃ later, lexer.Reads [.separator] rest later ∧ lexer.Keeps later := by
  obtain ⟨ready, sheds, freeReady, startReady, reads⟩ := exists_ready free start rfl
  have next : ready.next? = some (ready.uncommitted.pass 1 .separator true) := by
    rw [next?_of_markReader? startReady rfl, separator?, withoutCandidate?_of_isFree freeReady]
    rfl
  have after := rest_pass startReady .separator true
  exact ⟨_, reads .separator _ rest next (freeReady.uncommitted.pass 1 _ _) rfl after
    (Nat.le_refl _), sheds.keeps⟩

/-- Behind the mark of a key in a flow collection, only a mark of its own starts another key. -/
theorem reads_question (free : lexer.IsFree) (nested : lexer.inFlow = true)
    (start : lexer.cursor.rest = '?' :: rest) :
    ∃ later, lexer.Reads [.key] rest later ∧ lexer.Keeps later ∧ later.keyAllowed = false ∧
      later.candidate? = none := by
  obtain ⟨ready, sheds, freeReady, startReady, reads⟩ := exists_ready free start rfl
  have nestedReady := sheds.keeps.inFlow.trans nested
  have next : ready.next? = some (ready.uncommitted.pass 1 .key false) := by
    rw [next?_of_markReader? startReady (if_pos nestedReady), key?]
    refine (guard_bind (by rw [nestedReady, Bool.true_or]) _).trans ?_
    simp [nestedReady, openBlockHere, openBlock, withoutCandidate?_of_isFree freeReady]
  have after := rest_pass startReady .key false
  exact ⟨_, reads .key _ rest next (freeReady.uncommitted.pass 1 _ _) rfl after (Nat.le_refl _),
    sheds.keeps, rfl, rfl⟩

theorem reads_colon (free : lexer.IsFree) (nested : lexer.inFlow = true)
    (vacant : lexer.candidate? = none) (start : lexer.cursor.rest = ':' :: rest) :
    ∃ later, lexer.Reads [.value] rest later ∧ lexer.Keeps later := by
  obtain ⟨ready, sheds, freeReady, startReady, reads⟩ := exists_ready free start rfl
  have still : ready.candidate? = none := sheds.candidate.elim id (·.trans vacant)
  have nestedReady := sheds.keeps.inFlow.trans nested
  have next : ready.next? = some (ready.pass 1 .value false) := by
    rw [next?_of_markReader? startReady (if_pos nestedReady), value?, still]
    refine (guard_bind (by rw [nestedReady, Bool.true_or]) _).trans ?_
    simp [nestedReady, openBlockHere, openBlock]
  have after := rest_pass startReady .value false
  exact ⟨_, reads .value _ rest next (freeReady.pass 1 _ _) rfl after (Nat.le_refl _),
    sheds.keeps⟩

theorem reads_opening {token : Token}
    (mark : ∀ inFlow, markReader? inFlow char = some (·.openFlow? token)) (free : lexer.IsFree)
    (start : lexer.cursor.rest = char :: rest) :
    ∃ later, lexer.Reads [token] rest later ∧ ∃ candidate? outer,
      later.outer = candidate? :: outer ∧ List.Forall₂ Candidate.IsShed lexer.outer outer ∧
        (lexer.keyAllowed = false → Candidate.IsShed lexer.candidate? candidate?) := by
  have solid := isSolid_of_markReader? (Option.isSome_of_eq_some (mark lexer.inFlow))
  obtain ⟨ready, sheds, freeReady, startReady, reads⟩ := exists_ready free start solid
  have next : ready.next? = some (ready.opened token) :=
    (next?_of_markReader? startReady (mark _)).trans (openFlow?_of_isFree freeReady token)
  have after : (ready.opened token).cursor.rest = rest :=
    rest_pass (by rw [marked_cursor, startReady]) token true
  have passed := reads token _ rest next (freeReady.opened token)
    (congrArg (token :: ·) marked_tokens) after (Nat.le_refl _)
  exact ⟨_, passed, ready.marked.candidate?, _, rfl, sheds.keeps, sheds.isShed_marked⟩

theorem reads_closing {token : Token}
    (mark : ∀ inFlow, markReader? inFlow char = some (·.closeFlow? token)) (free : lexer.IsFree)
    (start : lexer.cursor.rest = char :: rest) {candidate? : Option Candidate}
    {outer : List (Option Candidate)} (nested : lexer.outer = candidate? :: outer) :
    ∃ later, lexer.Reads [token] rest later ∧ Candidate.IsShed candidate? later.candidate? ∧
      List.Forall₂ Candidate.IsShed outer later.outer := by
  have solid := isSolid_of_markReader? (Option.isSome_of_eq_some (mark lexer.inFlow))
  obtain ⟨ready, sheds, freeReady, startReady, reads⟩ := exists_ready free start solid
  have keeps := sheds.keeps
  rw [Keeps, nested] at keeps
  obtain ⟨own, others, shed, shedOthers, nestedReady⟩ := List.forall₂_cons_left_iff.mp keeps
  have next : ready.next? = some (ready.closed token own others) :=
    (next?_of_markReader? startReady (mark _)).trans
      (closeFlow?_of_isFree freeReady token nestedReady)
  have freeOuter := freeReady.outer
  rw [nestedReady, List.forall_mem_cons] at freeOuter
  have after : (ready.closed token own others).cursor.rest = rest :=
    rest_pass startReady token false
  exact ⟨_, reads token _ rest next ⟨freeReady.columns, freeOuter.1, freeOuter.2⟩ rfl after
    (Nat.le_refl _), shed, shedOthers⟩

/-- A node is passed: no flow collection was opened or closed, and where no key may start, no
candidate was made. -/
def ReadsNode (lexer : Lexer) (tokens : List Token) (rest : List Char) : Prop :=
  ∃ later, lexer.Reads tokens rest later ∧ lexer.Keeps later ∧
    (lexer.keyAllowed = false → Candidate.IsShed lexer.candidate? later.candidate?)

theorem readsNode_of_scanned {token : Token} {more : List Char} (free : lexer.IsFree)
    (start : lexer.cursor.rest = char :: more) (solid : isSolid char = true)
    (shorter : rest.length ≤ more.length)
    (scan : ∀ ready : Lexer, ready.IsFree → ready.inFlow = lexer.inFlow →
      ready.cursor.rest = char :: more →
        ∃ next : Cursor, next.rest = rest ∧ ready.next? = some (ready.scanned token next)) :
    lexer.ReadsNode [token] rest := by
  obtain ⟨ready, sheds, freeReady, startReady, reads⟩ := exists_ready free start solid
  obtain ⟨cursor, after, next⟩ := scan ready freeReady sheds.keeps.inFlow startReady
  have keeps : lexer.Keeps (ready.scanned token cursor) := by
    rw [Keeps, scanned, marked_outer]
    exact sheds.keeps
  have freeLater : (ready.scanned token cursor).IsFree :=
    ⟨freeReady.marked.columns, freeReady.marked.candidate, freeReady.marked.outer⟩
  exact ⟨_, reads token _ rest next freeLater rfl after shorter, keeps, sheds.isShed_marked⟩

/-- Within brackets, the candidates outside of them wait. -/
theorem readsNode_of_bracketed {opening closing : Char} {first last : Token}
    (opens : ∀ inFlow, markReader? inFlow opening = some (·.openFlow? first))
    (closes : ∀ inFlow, markReader? inFlow closing = some (·.closeFlow? last))
    (free : lexer.IsFree)
    {inner : List Char} {tokens : List Token}
    (start : lexer.cursor.rest = opening :: (inner ++ closing :: rest))
    (within : ∀ lexer : Lexer, lexer.IsFree → lexer.inFlow = true →
      lexer.cursor.rest = inner ++ closing :: rest →
        ∃ later, lexer.Reads tokens (closing :: rest) later ∧ lexer.Keeps later) :
    lexer.ReadsNode (first :: tokens ++ [last]) rest := by
  obtain ⟨inside, opened, candidate?, outer, nested, shedOuter, shed⟩ :=
    reads_opening opens free start
  have inFlow : inside.inFlow = true := by
    rw [Lexer.inFlow, nested]
    rfl
  obtain ⟨behind, passed, keeps⟩ := within inside opened.free inFlow opened.rest
  rw [Keeps, nested] at keeps
  obtain ⟨own, others, shedOwn, shedOthers, nestedBehind⟩ := List.forall₂_cons_left_iff.mp keeps
  obtain ⟨later, closed, shedLater, shedLast⟩ :=
    reads_closing closes passed.free passed.rest nestedBehind
  refine ⟨later, (opened.trans passed).trans closed, ?_, fun barred => ?_⟩
  · exact Candidate.forall₂_trans shedOuter (Candidate.forall₂_trans shedOthers shedLast)
  · exact (shed barred).trans (shedOwn.trans shedLater)

theorem isSolid_of_isWordChar {char : Char} (inWord : isWordChar char = true) :
    isSolid char = true := by
  have breaks : char ∉ ['\n', '\u2028', '\u2029'] := not_mem_of_isWordChar inWord (by decide)
  have blanks : char ∉ [' ', '\t', '\uFEFF', '#'] := not_mem_of_isWordChar inWord (by decide)
  rw [isSolid, isBreak, decide_eq_false breaks, decide_eq_true blanks]
  rfl

theorem reads_space {lexer : Lexer} (free : lexer.IsFree) {rest : List Char}
    (start : lexer.cursor.rest = ' ' :: rest) :
    lexer.Reads [] rest { lexer with cursor := lexer.cursor.tail } where
  leads := leads_of_space start
  rest := by rw [Cursor.rest_tail, start, List.tail_cons]
  tokens := rfl
  free := ⟨free.columns, free.candidate, free.outer⟩

mutual

/-- Reading a node from its characters yields its tokens. -/
theorem readsNode_chars (node : Node) (writable : node.isWritable = true) {lexer : Lexer}
    (free : lexer.IsFree) {rest : List Char} (start : lexer.cursor.rest = node.chars ++ rest)
    (ends : Ends lexer.inFlow rest) : lexer.ReadsNode node.tokens rest := by
  match node with
  | .plain text =>
    obtain ⟨char, more, toList, inWord⟩ := exists_cons_of_isWord writable
    rw [Node.chars, toList, List.cons_append] at start
    apply readsNode_of_scanned free start (isSolid_of_isWordChar inWord) (by simp)
    intro ready freeReady same startReady
    rw [← List.cons_append, ← toList] at startReady
    exact next?_word freeReady writable startReady (by rwa [same])
  | .quoted text =>
    rw [Node.chars, List.cons_append, List.append_assoc, List.singleton_append] at start
    apply readsNode_of_scanned free start rfl
    · rw [List.length_append, List.length_cons]
      omega
    intro ready freeReady _ startReady
    exact next?_quoted freeReady text startReady
  | .list items =>
    rw [Node.chars, List.cons_append, List.append_assoc, List.singleton_append] at start
    exact readsNode_of_bracketed (fun _ => rfl) (fun _ => rfl) free start
      fun _ free nested start => reads_itemChars items writable free nested start
  | .mapping entries =>
    rw [Node.chars, List.cons_append, List.append_assoc, List.singleton_append] at start
    exact readsNode_of_bracketed (fun _ => rfl) (fun _ => rfl) free start
      fun _ free nested start => reads_entryChars entries writable free nested start

theorem reads_itemChars (items : List Node) (writable : areWritable items = true) {lexer : Lexer}
    (free : lexer.IsFree) (nested : lexer.inFlow = true) {rest : List Char}
    (start : lexer.cursor.rest = itemChars items ++ rest) :
    ∃ later, lexer.Reads (itemTokens items) rest later ∧ lexer.Keeps later := by
  match items with
  | [] => exact ⟨lexer, ⟨.refl lexer, start, rfl, free⟩, .refl lexer⟩
  | item :: others =>
    rw [areWritable, Bool.and_eq_true] at writable
    rw [itemChars, List.cons_append, List.append_assoc, List.cons_append] at start
    have spaced := reads_space free start
    obtain ⟨behind, passed, keeps, -⟩ := readsNode_chars item writable.1 spaced.free spaced.rest
      (.inr (.inl ⟨nested, _, rfl⟩))
    obtain ⟨separated, comma, keepsComma⟩ := reads_comma passed.free passed.rest
    have keepsItem : lexer.Keeps separated := keeps.trans keepsComma
    obtain ⟨later, onward, keepsOthers⟩ := reads_itemChars others writable.2 comma.free
      (keepsItem.inFlow.trans nested) comma.rest
    exact ⟨later, spaced.trans (passed.trans (comma.trans onward)), keepsItem.trans keepsOthers⟩

theorem reads_entryChars (entries : List (Node × Node))
    (writable : areWritableEntries entries = true) {lexer : Lexer}
    (free : lexer.IsFree) (nested : lexer.inFlow = true) {rest : List Char}
    (start : lexer.cursor.rest = entryChars entries ++ rest) :
    ∃ later, lexer.Reads (entryTokens entries) rest later ∧ lexer.Keeps later := by
  match entries with
  | [] => exact ⟨lexer, ⟨.refl lexer, start, rfl, free⟩, .refl lexer⟩
  | (key, value) :: others =>
    rw [areWritableEntries, Bool.and_eq_true, Bool.and_eq_true] at writable
    simp only [entryChars, List.cons_append, List.append_assoc] at start
    have spaced := reads_space free start
    obtain ⟨marked, question, keepsMark, barred, vacant⟩ :=
      reads_question spaced.free nested spaced.rest
    have spacedKey := reads_space question.free question.rest
    obtain ⟨behindKey, passedKey, keepsKey, shed⟩ := readsNode_chars key writable.1.1
      spacedKey.free spacedKey.rest (.inr (.inr ⟨_, rfl⟩))
    have keeps : lexer.Keeps behindKey := Keeps.trans keepsMark keepsKey
    -- The mark barred candidates from the key, so the colon finds none.
    have still : behindKey.candidate? = none := (shed barred).elim id (·.trans vacant)
    obtain ⟨behindColon, colon, keepsColon⟩ := reads_colon passedKey.free
      (keeps.inFlow.trans nested) still passedKey.rest
    have spacedValue := reads_space colon.free colon.rest
    have nestedValue : behindColon.inFlow = true :=
      (Keeps.trans keeps keepsColon).inFlow.trans nested
    obtain ⟨behindValue, passedValue, keepsValue, -⟩ := readsNode_chars value writable.1.2
      spacedValue.free spacedValue.rest (.inr (.inl ⟨nestedValue, _, rfl⟩))
    obtain ⟨separated, comma, keepsComma⟩ := reads_comma passedValue.free passedValue.rest
    have keepsEntry : lexer.Keeps separated :=
      Keeps.trans keeps (Keeps.trans keepsColon (Keeps.trans keepsValue keepsComma))
    obtain ⟨later, onward, keepsOthers⟩ := reads_entryChars others writable.2 comma.free
      (keepsEntry.inFlow.trans nested) comma.rest
    have passed := colon.trans (spacedValue.trans (passedValue.trans (comma.trans onward)))
    exact ⟨later, spaced.trans (question.trans (spacedKey.trans (passedKey.trans passed))),
      keepsEntry.trans keepsOthers⟩

end

/-- At the end of a text, the tokens are complete. -/
theorem run?_of_rest_eq_nil {lexer : Lexer} (free : lexer.IsFree)
    (finished : lexer.cursor.rest = []) {fuel : Nat} (enough : 0 < fuel) :
    lexer.run? fuel = some lexer.tokens.reverse := by
  obtain ⟨fuel, rfl⟩ := Nat.exists_eq_add_one_of_ne_zero (Nat.ne_zero_of_lt enough)
  obtain ⟨ready, advanced, sheds⟩ := advance?_of_skip_eq free (by rw [finished, skip])
  have freeReady := sheds.isFree free
  simp [run?, advanced, sheds.cursor, finished, closeBlocks_of_columns_eq_nil freeReady.columns,
    withoutCandidate?_of_isFree freeReady, uncommitted, sheds.tokens]

end Lexer

/-- The tokens of a written node are read from its characters. -/
theorem Token.listOfText?_chars {node : Node} (writable : node.isWritable = true) :
    Token.listOfText? node.chars = some node.tokens := by
  let start : Lexer := { cursor := .start node.chars }
  have free : start.IsFree := ⟨rfl, nofun, nofun⟩
  obtain ⟨later, reads, -⟩ := Lexer.readsNode_chars node writable free
    (List.append_nil node.chars).symm (.inl rfl)
  obtain ⟨fuel, enough, same⟩ := reads.leads (node.chars.length + 1) (Nat.lt_succ_self _)
  rw [Token.listOfText?, same,
    Lexer.run?_of_rest_eq_nil reads.free reads.rest (Nat.zero_lt_of_lt enough), reads.tokens,
    List.append_nil, List.reverse_reverse]

end Chip8.Document
