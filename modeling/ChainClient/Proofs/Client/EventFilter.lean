import ChainClient.Proofs.Client.Arguments
import ChainClient.Proofs.Client.Transaction
import ChainClient.Proofs.Text.Pieces
import ChainClient.Rpc.EventQuery

/-!
# Filters of events

A filter is accepted when each piece of it is a pair: a key and a value on the two sides of the only equality sign, which are not empty when they are trimmed. The query puts the values between quotes and does not escape what they hold, so what it keeps apart is cut at the equality signs: the first key, the seams of a value and the next key, and the last value. Where a filter holds no quotes of its own, each seam shows where its value ends, and no other filter leads to the same query. A quote in a value or a key can move that end, so that one query comes from different pairs.
-/

namespace ChainClient

open Text

/-- What an event is searched by. -/
@[ext]
structure EventPair where
  key : List Char
  value : List Char
  deriving DecidableEq

namespace EventPair

/-- A piece of a filter with this pair: the key, the only equality sign and the value, both filled, with white space around them. -/
def Says (piece : List Char) (pair : EventPair) : Prop :=
  ∃ before after, piece = before ++ '=' :: after ∧ '=' ∉ before ∧ '=' ∉ after ∧
    pair = ⟨trimChars before, trimChars after⟩ ∧ pair.key ≠ [] ∧ pair.value ≠ []

/-- Neither part of the pair holds a quote. -/
def Quoteless (pair : EventPair) : Prop := '\'' ∉ pair.key ∧ '\'' ∉ pair.value

def condition (pair : EventPair) : List Char := pair.key ++ '=' :: '\'' :: pair.value ++ ['\'']

/-- The query that searches by all pairs. -/
def query (pairs : List EventPair) : String :=
  String.intercalate " AND " (pairs.map fun pair => String.ofList pair.condition)

/-- The pairs of a filter, one for each of its pieces. -/
def Filters (events : String) (pairs : List EventPair) : Prop := List.Forall₂ Says (splitOn '&' events.toList) pairs

/-! ### Reading -/

variable {piece : List Char} {pair other : EventPair} {events : String} {pairs others : List EventPair}

theorem says_append_iff {before after : List Char} (hbefore : '=' ∉ before) :
    Says (before ++ '=' :: after) pair ↔
      '=' ∉ after ∧ pair = ⟨trimChars before, trimChars after⟩ ∧ pair.key ≠ [] ∧ pair.value ≠ [] := by
  refine ⟨?_, fun ⟨hafter, hpair⟩ => ⟨before, after, rfl, hbefore, hafter, hpair⟩⟩
  rintro ⟨front, back, hcut, hfront, hback, hpair⟩
  have hsplit := splitOnce_append hbefore after
  rw [hcut, splitOnce_append hfront] at hsplit
  cases hsplit
  exact ⟨hback, hpair⟩

theorem Says.unique (h : Says piece pair) (hother : Says piece other) : pair = other := by
  obtain ⟨before, after, rfl, hbefore, -, rfl, -⟩ := h
  exact ((says_append_iff hbefore).1 hother).2.1.symm

theorem Filters.unique (h : Filters events pairs) (hothers : Filters events others) : pairs = others := by
  have hunique : Relator.RightUnique Says := fun _ _ _ => Says.unique
  exact hunique.forall₂ h hothers

theorem Says.equals_mem (h : Says piece pair) : '=' ∈ piece := by
  obtain ⟨before, after, rfl, -⟩ := h
  exact List.mem_append_right before List.mem_cons_self

theorem Says.equals_not_mem (h : Says piece pair) : '=' ∉ pair.key ∧ '=' ∉ pair.value := by
  obtain ⟨before, after, -, hbefore, hafter, rfl, -⟩ := h
  exact ⟨fun hmem => hbefore (mem_of_mem_trimChars hmem), fun hmem => hafter (mem_of_mem_trimChars hmem)⟩

/-- What a piece becomes in the query. -/
theorem condition_eq_ok_iff {text : String} :
    (match (splitOnce '=' piece).filter fun (_, value) => !value.contains '=' with
      | none => throw (.invalidParam "events" (.eventPair (String.ofList piece)))
      | some (key, value) =>
        let key := trimChars key
        let value := trimChars value
        if key.isEmpty || value.isEmpty then throw (.invalidParam "events" (.emptyEventPart (String.ofList piece)))
        else return String.ofList (key ++ '=' :: '\'' :: value ++ ['\'']) : Except ClientError String) = .ok text ↔
      ∃ pair, Says piece pair ∧ String.ofList pair.condition = text := by
  by_cases hnone : '=' ∉ piece
  · rw [splitOnce_eq_none hnone]
    exact iff_of_false nofun fun ⟨pair, hsays, _⟩ => hnone hsays.equals_mem
  obtain ⟨before, after, rfl, hbefore⟩ := List.eq_append_cons_of_mem (not_not.1 hnone)
  simp only [splitOnce_append hbefore, says_append_iff hbefore]
  by_cases hafter : '=' ∈ after
  · rw [Option.filter_some_neg (by simp [hafter])]
    exact iff_of_false nofun fun ⟨pair, hpair, _⟩ => hpair.1 hafter
  rw [Option.filter_some_pos (by simp [hafter])]
  dsimp only
  by_cases hempty : (trimChars before).isEmpty || (trimChars after).isEmpty
  · rw [if_pos hempty]
    rw [Bool.or_eq_true, List.isEmpty_iff, List.isEmpty_iff] at hempty
    refine iff_of_false nofun ?_
    rintro ⟨pair, ⟨-, rfl, hkey, hvalue⟩, -⟩
    exact hempty.elim hkey hvalue
  · rw [if_neg hempty]
    rw [Bool.or_eq_true, List.isEmpty_iff, List.isEmpty_iff, not_or] at hempty
    constructor
    · intro h
      exact ⟨_, ⟨hafter, rfl, hempty⟩, Except.ok.inj h⟩
    · rintro ⟨pair, ⟨-, rfl, -⟩, rfl⟩
      rfl

private theorem forall₂_says_iff {pieces : List (List Char)} {texts : List String} :
    List.Forall₂ (fun piece text => ∃ pair, Says piece pair ∧ String.ofList pair.condition = text) pieces texts ↔
      ∃ pairs, List.Forall₂ Says pieces pairs ∧ pairs.map (fun pair => String.ofList pair.condition) = texts := by
  induction pieces generalizing texts with
  | nil =>
    simp only [List.forall₂_nil_left_iff, exists_eq_left, List.map_nil, eq_comm]
  | cons piece pieces ih =>
    simp only [List.forall₂_cons_left_iff, ih]
    constructor
    · rintro ⟨_, _, ⟨pair, hpair, rfl⟩, ⟨pairs, hpairs, rfl⟩, rfl⟩
      exact ⟨pair :: pairs, ⟨pair, pairs, hpair, hpairs, rfl⟩, rfl⟩
    · rintro ⟨_, ⟨pair, pairs, hpair, hpairs, rfl⟩, rfl⟩
      exact ⟨_, _, ⟨pair, hpair, rfl⟩, ⟨pairs, hpairs, rfl⟩, rfl⟩

theorem not_blank_of_filters (h : Filters events pairs) : ¬ Text.blank events := by
  intro hblank
  have hvisible : ∀ c, isBlank c = false → c ∉ events.toList := fun c hc => not_mem_of_blank hc (List.all_eq_true.1 hblank)
  rw [Filters, splitOn_of_not_mem (hvisible '&' (by decide))] at h
  obtain ⟨pair, -, hsays, -, -⟩ := List.forall₂_cons_left_iff.1 h
  exact hvisible '=' (by decide) hsays.equals_mem

/-- A filter is accepted exactly when its pieces are pairs, and becomes the query for these. -/
theorem eventsQuery_eq_ok_iff {text : String} :
    Params.eventsQuery events = .ok text ↔ ∃ pairs, Filters events pairs ∧ query pairs = text := by
  constructor
  · intro h
    obtain ⟨-, hrest⟩ := guard_eq_ok.1 h
    obtain ⟨conditions, hconditions, htext⟩ := bind_eq_ok.1 hrest
    have hsays := (mapM_eq_ok_iff.1 hconditions).imp fun _ _ => condition_eq_ok_iff.1
    obtain ⟨pairs, hpairs, rfl⟩ := forall₂_says_iff.1 hsays
    exact ⟨pairs, hpairs, Except.ok.inj htext⟩
  · rintro ⟨pairs, hpairs, rfl⟩
    have hsays := (forall₂_says_iff.2 ⟨pairs, hpairs, rfl⟩).imp fun _ _ => condition_eq_ok_iff.2
    exact guard_eq_ok.2 ⟨not_blank_of_filters hpairs, bind_eq_ok.2 ⟨_, mapM_eq_ok_iff.2 hsays, rfl⟩⟩

/-! ### Seams -/

/-- The texts after the equality signs: each value between its quotes, with the key that follows. -/
def seamsAfter (value : List Char) : List EventPair → List (List Char)
  | [] => ['\'' :: (value ++ ['\''])]
  | pair :: rest => ('\'' :: (value ++ '\'' :: (" AND ".toList ++ pair.key))) :: seamsAfter pair.value rest

/-- The texts between the equality signs of a query. -/
def seams : List EventPair → List (List Char)
  | [] => [[]]
  | pair :: rest => pair.key :: seamsAfter pair.value rest

theorem seamsAfter_ne_nil (value : List Char) (rest : List EventPair) : seamsAfter value rest ≠ [] := by
  cases rest <;> exact List.cons_ne_nil _ _

theorem intercalate_seamsAfter (pair : EventPair) (rest : List EventPair) :
    pair.key ++ '=' :: ['='].intercalate (seamsAfter pair.value rest) =
      " AND ".toList.intercalate ((pair :: rest).map condition) := by
  induction rest generalizing pair with
  | nil => simp [seamsAfter, condition]
  | cons next rest ih =>
    obtain ⟨seam, others, hseams⟩ := List.exists_cons_of_ne_nil (seamsAfter_ne_nil next.value rest)
    have hrest := ih next
    rw [hseams] at hrest
    rw [List.map_cons, List.map_cons, List.intercalate_cons_cons, ← List.map_cons, ← hrest, seamsAfter, hseams,
      List.intercalate_cons_cons]
    simp [condition]

theorem toList_query_cons (pair : EventPair) (rest : List EventPair) :
    (query (pair :: rest)).toList = pair.key ++ '=' :: ['='].intercalate (seamsAfter pair.value rest) := by
  have hconditions : ((pair :: rest).map fun pair => String.ofList pair.condition).map String.toList =
      (pair :: rest).map condition := by
    rw [List.map_map]
    exact List.map_congr_left fun pair _ => String.toList_ofList
  rw [query, String.toList_intercalate, hconditions, intercalate_seamsAfter]

theorem intercalate_seams (pairs : List EventPair) : ['='].intercalate (seams pairs) = (query pairs).toList := by
  cases pairs with
  | nil => rfl
  | cons pair rest =>
    obtain ⟨seam, others, hseams⟩ := List.exists_cons_of_ne_nil (seamsAfter_ne_nil pair.value rest)
    rw [toList_query_cons, seams, hseams, List.intercalate_cons_cons, List.append_assoc]
    rfl

/-- No part of any pair holds an equality sign. -/
def Unequal (pairs : List EventPair) : Prop := ∀ pair ∈ pairs, '=' ∉ pair.key ∧ '=' ∉ pair.value

theorem Filters.unequal (h : Filters events pairs) : Unequal pairs := by
  intro pair hpair
  obtain ⟨piece, -, hsays⟩ := exists_of_mem_right h hpair
  exact hsays.equals_not_mem

theorem equals_not_mem_seamsAfter {value : List Char} {rest : List EventPair} (hvalue : '=' ∉ value) (h : Unequal rest) :
    ∀ seam ∈ seamsAfter value rest, '=' ∉ seam := by
  have hword : '=' ∉ " AND ".toList := by decide
  induction rest generalizing value with
  | nil => simp [seamsAfter, hvalue]
  | cons pair rest ih =>
    obtain ⟨⟨hkey, hnext⟩, hrest⟩ := List.forall_mem_cons.1 h
    rw [seamsAfter, List.forall_mem_cons]
    refine ⟨?_, ih hnext hrest⟩
    simp only [List.mem_cons, List.mem_append, not_or]
    exact ⟨by decide, hvalue, by decide, hword, hkey⟩

theorem equals_not_mem_seams (h : Unequal pairs) : ∀ seam ∈ seams pairs, '=' ∉ seam := by
  cases pairs with
  | nil => simp [seams]
  | cons pair rest =>
    obtain ⟨⟨hkey, hvalue⟩, hrest⟩ := List.forall_mem_cons.1 h
    exact List.forall_mem_cons.2 ⟨hkey, equals_not_mem_seamsAfter hvalue hrest⟩

/-- Cutting a query at the equality signs gives its seams. -/
theorem splitOn_query (h : Unequal pairs) : splitOn '=' (query pairs).toList = seams pairs := by
  have hne : seams pairs ≠ [] := by cases pairs <;> exact List.cons_ne_nil _ _
  rw [← intercalate_seams, splitOn_intercalate (equals_not_mem_seams h) hne]

theorem query_eq_iff (hpairs : Unequal pairs) (hothers : Unequal others) :
    query pairs = query others ↔ seams pairs = seams others := by
  constructor
  · intro h
    rw [← splitOn_query hpairs, h, splitOn_query hothers]
  · intro h
    rw [← String.toList_inj, ← intercalate_seams, h, intercalate_seams]

/-! ### Without quotes -/

/-- The only quote of a text shows where it is cut. -/
theorem eq_of_quote {value key other next : List Char} (hvalue : '\'' ∉ value) (hkey : '\'' ∉ key)
    (h : value ++ '\'' :: (" AND ".toList ++ key) = other ++ '\'' :: (" AND ".toList ++ next)) :
    value = other ∧ key = next := by
  have hword : " AND ".toList.count '\'' = 0 := by decide
  -- The left side has one quote in all, and the right side has one already, so its parts have none.
  have hcount := congrArg (List.count '\'') h
  simp only [List.count_append, List.count_cons_self, hword, List.count_eq_zero.2 hvalue, List.count_eq_zero.2 hkey] at hcount
  have hother : '\'' ∉ other := List.count_eq_zero.1 (by omega)
  have hsplit := splitOnce_append hvalue (" AND ".toList ++ key)
  rw [h, splitOnce_append hother, Option.some_inj, Prod.mk.injEq, List.append_cancel_left_eq] at hsplit
  exact ⟨hsplit.1.symm, hsplit.2.symm⟩

theorem eq_of_seamsAfter {value other : List Char} {rest others : List EventPair} (hvalue : '\'' ∉ value)
    (hrest : ∀ pair ∈ rest, pair.Quoteless) (h : seamsAfter value rest = seamsAfter other others) :
    value = other ∧ rest = others := by
  induction rest generalizing value other others with
  | nil =>
    cases others with
    | nil => exact ⟨by simpa [seamsAfter] using h, rfl⟩
    -- A further pair would make a further seam.
    | cons next others => exact absurd (List.cons.inj h).2.symm (seamsAfter_ne_nil next.value others)
  | cons pair rest ih =>
    cases others with
    | nil => exact absurd (List.cons.inj h).2 (seamsAfter_ne_nil pair.value rest)
    | cons next others =>
      obtain ⟨⟨hkey, hafter⟩, hrest⟩ := List.forall_mem_cons.1 hrest
      obtain ⟨hseam, hseams⟩ := List.cons.inj h
      obtain ⟨rfl, hkeys⟩ := eq_of_quote hvalue hkey (List.cons.inj hseam).2
      obtain ⟨hvalues, rfl⟩ := ih hafter hrest hseams
      exact ⟨rfl, by rw [EventPair.ext hkeys hvalues]⟩

theorem eq_of_seams (hpairs : ∀ pair ∈ pairs, pair.Quoteless) (hne : pairs ≠ [])
    (h : seams pairs = seams others) : pairs = others := by
  cases pairs with
  | nil => exact absurd rfl hne
  | cons pair rest =>
    obtain ⟨⟨-, hvalue⟩, hrest⟩ := List.forall_mem_cons.1 hpairs
    cases others with
    | nil => exact absurd (List.cons.inj h).2 (seamsAfter_ne_nil pair.value rest)
    | cons next others =>
      obtain ⟨hkey, hseams⟩ := List.cons.inj h
      obtain ⟨hvalues, rfl⟩ := eq_of_seamsAfter hvalue hrest hseams
      rw [EventPair.ext hkey hvalues]

theorem Filters.ne_nil (h : Filters events pairs) : pairs ≠ [] := by
  rintro rfl
  exact splitOn_ne_nil '&' events.toList (List.forall₂_nil_right_iff.1 h)

/-! ### The search -/

theorem not_blank_query (h : Filters events pairs) : ¬ Text.blank (query pairs) := by
  obtain ⟨pair, rest, rfl⟩ := List.exists_cons_of_ne_nil h.ne_nil
  have hmem : '=' ∈ (query (pair :: rest)).toList := by
    rw [toList_query_cons]
    exact List.mem_append_right pair.key List.mem_cons_self
  exact not_blank_of_visible ⟨'=', hmem, by decide⟩

theorem run_txsByEvents (h : Filters events pairs) {page limit : UInt32} (hpage : page ≠ 0) (hlimit : limit ≠ 0)
    (session : Session) :
    ((Query.txsByEvents events page limit).perform.run session).2 =
      [.txSearch (query pairs) false page (UInt8.ofNat (min limit.toNat 255)) .ascending] := by
  have hquery := eventsQuery_eq_ok_iff.2 ⟨pairs, h, rfl⟩
  have hcheck : Params.checkPage page limit = .ok () := by
    simp [Params.checkPage, hpage, hlimit, pure, Except.pure]
  have hpositive : ∀ (name : String) (n : UInt32), n ≠ 0 → Params.checkPositive name n = .ok () := fun _ _ hn => if_neg hn
  have horder : Params.searchOrder? "" = some .ascending := by decide
  rw [Operation.run_eq, Query.perform, Operation.runFrom_ofExcept_bind, hcheck, Operation.runFrom_ofExcept_bind, hquery]
  simp only [Query.search, if_neg (not_blank_query h), Operation.runFrom_ofExcept_bind,
    hpositive _ _ hpage, hpositive _ _ hlimit, horder]
  exact congrArg Prod.snd (Operation.runFrom_ask _)

/-- **Filters told apart.** A filter is accepted exactly when each of its pieces is a pair, and then the node is asked the query for these pairs, which are no others. Two filters lead to one query exactly when their pairs have the same seams: the first key, the last value, and each value with the key that follows are the same. If one of them has no quotes in its keys and values, they lead to one query only if their pairs are the same. -/
theorem event_filters_told_apart (left right : String) :
    (∀ text, Params.eventsQuery left = .ok text ↔ ∃ pairs, Filters left pairs ∧ query pairs = text) ∧
    ∀ pairs others, Filters left pairs → Filters right others →
      (∀ same, Filters left same → same = pairs) ∧
      (∀ session page limit, page ≠ 0 → limit ≠ 0 →
        ((Query.txsByEvents left page limit).perform.run session).2 =
          [.txSearch (query pairs) false page (UInt8.ofNat (min limit.toNat 255)) .ascending]) ∧
      (query pairs = query others ↔ seams pairs = seams others) ∧
      ((∀ pair ∈ pairs, pair.Quoteless) ∨ (∀ pair ∈ others, pair.Quoteless) →
        (query pairs = query others ↔ pairs = others)) := by
  refine ⟨fun text => eventsQuery_eq_ok_iff, fun pairs others hleft hright => ⟨fun same hsame => hsame.unique hleft,
    fun session page limit hpage hlimit => run_txsByEvents hleft hpage hlimit session, ?seams, fun hquoteless => ?pairs⟩⟩
  case seams => exact query_eq_iff hleft.unequal hright.unequal
  case pairs =>
    refine ⟨fun h => ?_, congrArg query⟩
    have hseams := (query_eq_iff hleft.unequal hright.unequal).1 h
    rcases hquoteless with hpairs | hothers
    · exact eq_of_seams hpairs hleft.ne_nil hseams
    · exact (eq_of_seams hothers hright.ne_nil hseams.symm).symm

/-- A filter by sender and action, with white space around its parts and without. -/
theorem event_filters_told_apart_sender :
    let pairs : List EventPair := [⟨"message.sender".toList, "ex1abc".toList⟩, ⟨"message.action".toList, "send".toList⟩]
    Filters "message.sender = ex1abc & message.action = send" pairs ∧
      Params.eventsQuery "message.sender=ex1abc&message.action=send" = .ok (query pairs) ∧
      ((Query.txsByEvents "message.sender=ex1abc&message.action=send" 1 30).perform.run Sample.online).2 =
        [.txSearch "message.sender='ex1abc' AND message.action='send'" false 1 30 .ascending] ∧
      ∀ right others, Filters right others → query pairs = query others → pairs = others := by
  intro pairs
  have hspaced : Filters "message.sender = ex1abc & message.action = send" pairs :=
    .cons ⟨"message.sender ".toList, " ex1abc ".toList, by decide⟩
      (.cons ⟨" message.action ".toList, " send".toList, by decide⟩ .nil)
  have hplain : Filters "message.sender=ex1abc&message.action=send" pairs :=
    .cons ⟨"message.sender".toList, "ex1abc".toList, by decide⟩
      (.cons ⟨"message.action".toList, "send".toList, by decide⟩ .nil)
  have hquoteless : ∀ pair ∈ pairs, pair.Quoteless := by
    unfold Quoteless
    decide
  obtain ⟨haccepted, happart⟩ := event_filters_told_apart "message.sender=ex1abc&message.action=send"
    "message.sender = ex1abc & message.action = send"
  obtain ⟨-, hasked, -, -⟩ := happart pairs pairs hplain hspaced
  refine ⟨hspaced, (haccepted _).2 ⟨pairs, hplain, rfl⟩, hasked _ 1 30 (by decide) (by decide), fun right others hright => ?_⟩
  obtain ⟨-, -, -, hsame⟩ := (event_filters_told_apart _ right).2 pairs others hplain hright
  exact (hsame (.inl hquoteless)).1

/-- Two filters with different pairs, each with quotes, for which the node is asked one query; it reads three conditions in it. -/
theorem event_filters_confused :
    ∃ left right text pairs others, Params.eventsQuery left = .ok text ∧ Params.eventsQuery right = .ok text ∧
      Filters left pairs ∧ Filters right others ∧ pairs ≠ others ∧
      ((Query.txsByEvents left 1 30).perform.run Sample.online).2 =
        ((Query.txsByEvents right 1 30).perform.run Sample.online).2 ∧
      Rpc.EventQuery.parse? text = some ⟨[.compare ['x'] .equal (.text ['a']), .contains ['z'] ['w'],
        .compare ['c'] .equal (.text ['d'])]⟩ := by
  have hleft : Filters "x=a&z CONTAINS 'w' AND c=d" [⟨['x'], ['a']⟩, ⟨"z CONTAINS 'w' AND c".toList, ['d']⟩] :=
    .cons ⟨['x'], ['a'], by decide⟩ (.cons ⟨"z CONTAINS 'w' AND c".toList, ['d'], by decide⟩ .nil)
  have hright : Filters "x=a' AND z CONTAINS 'w&c=d" [⟨['x'], "a' AND z CONTAINS 'w".toList⟩, ⟨['c'], ['d']⟩] :=
    .cons ⟨['x'], "a' AND z CONTAINS 'w".toList, by decide⟩ (.cons ⟨['c'], ['d'], by decide⟩ .nil)
  have hquery : query [⟨['x'], ['a']⟩, ⟨"z CONTAINS 'w' AND c".toList, ['d']⟩] =
      query [⟨['x'], "a' AND z CONTAINS 'w".toList⟩, ⟨['c'], ['d']⟩] := by decide
  have hsearch := run_txsByEvents hleft (show (1 : UInt32) ≠ 0 by decide) (show (30 : UInt32) ≠ 0 by decide) Sample.online
  rw [hquery, ← run_txsByEvents hright (by decide) (by decide)] at hsearch
  exact ⟨_, _, _, _, _, eventsQuery_eq_ok_iff.2 ⟨_, hleft, rfl⟩, eventsQuery_eq_ok_iff.2 ⟨_, hright, hquery.symm⟩, hleft,
    hright, by decide, hsearch, by decide +kernel⟩

end EventPair

end ChainClient
