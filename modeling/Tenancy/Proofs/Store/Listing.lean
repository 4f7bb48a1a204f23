import Tenancy.Proofs.Database.Grouping
import Tenancy.Proofs.Store.Contents
import Tenancy.Proofs.Store.Reading
import Tenancy.Proofs.Store.Rows

/-!
# Listing the workspaces of a user

The query of a listing joins, groups and counts; what it gives is what one would write down channel
by channel: each channel that the user is a member of, with the number of its boards. A channel
without a name cannot be listed, and then nothing is.
-/
namespace Tenancy.Store

open Sql

namespace Contents

variable (contents : Contents) (user : Text)

/-- The channels that a user is a member of. -/
def channelsOf : List Channel :=
  contents.channels.filter fun channel => ⟨channel.id, user⟩ ∈ contents.members

/-- The entries of a user: the channels that have a name, with their numbers of boards. -/
def entriesOf : List UserWorkspace :=
  (contents.channelsOf user).filterMap fun channel =>
    channel.displayName.map fun name => ⟨channel.id, name, (contents.boardsOf channel.id).length⟩

/-- The rows of a user. -/
def joinedOf : List Joined := contents.joined.filter (·.member.userId == user)

end Contents

/-! ## Rows and keys -/

-- The key of a channel in the grouping
private def Channel.key (channel : Channel) : List Cell :=
  [.text channel.id, .optional channel.displayName]

private theorem Channel.key_injective : Function.Injective Channel.key := by
  rintro ⟨id, name⟩ ⟨other, otherName⟩ same
  obtain ⟨ids, names⟩ := List.cons_eq_cons.mp same
  have sameId : id = other := Cell.text.inj ids
  have sameName : name = otherName := Cell.optional_injective (List.cons_eq_cons.mp names).1
  rw [sameId, sameName]

section
variable (contents : Contents) (user : Text)

private theorem exists_mem_boardsOrNone (channelId : Text) :
    ∃ board, board ∈ contents.boardsOrNone channelId := by
  unfold Contents.boardsOrNone
  cases contents.boardsOf channelId with
  | nil => exact ⟨none, List.mem_singleton_self none⟩
  | cons board boards => exact ⟨some board, List.mem_cons_self⟩

omit contents user in
-- What contributes nothing can be left out
private theorem flatMap_eq_filter {α β : Type} (p : α → Bool) (f : α → List β) (l : List α)
    (nothing : ∀ a, p a = false → f a = []) : l.flatMap f = (l.filter p).flatMap f := by
  induction l with
  | nil => rfl
  | cons a l ih =>
    rw [List.flatMap_cons, ih, List.filter_cons]
    split
    next => rw [List.flatMap_cons]
    next other => rw [nothing a (Bool.eq_false_iff.mpr other), List.nil_append]

-- The channels of the rows of a user are those that the user is a member of
private theorem exists_joinedOf_iff (channel : Channel) :
    (∃ joined ∈ contents.joinedOf user, joined.channel = channel) ↔
      channel ∈ contents.channelsOf user := by
  simp only [Contents.joinedOf, Contents.joined, Contents.channelsOf, List.mem_filter,
    List.mem_flatMap, List.mem_map, beq_iff_eq, decide_eq_true_eq]
  constructor
  · rintro ⟨_, ⟨⟨member, isMember, board, -, found, ⟨inChannels, own⟩, rfl⟩, rfl⟩, rfl⟩
    refine ⟨inChannels, ?_⟩
    rwa [own]
  · rintro ⟨inChannels, isMember⟩
    obtain ⟨board, inBoards⟩ := exists_mem_boardsOrNone contents channel.id
    exact ⟨⟨⟨channel.id, user⟩, board, channel⟩,
      ⟨⟨_, isMember, board, inBoards, channel, ⟨inChannels, rfl⟩, rfl⟩, rfl⟩, rfl⟩

-- The rows of a user for one channel: the user is a member of it once
private theorem joinedOf_channel (channel : Channel)
    (selected : channel ∈ contents.channelsOf user) :
    (contents.joinedOf user).filter (·.channel.key == channel.key) =
      (contents.boardsOrNone channel.id).map fun board => ⟨⟨channel.id, user⟩, board, channel⟩ := by
  obtain ⟨inChannels, isMember⟩ := List.mem_filter.mp selected
  have once : contents.members.filter (· == ⟨channel.id, user⟩) = [⟨channel.id, user⟩] := by
    rw [List.filter_beq,
      List.count_eq_one_of_mem contents.distinctMembers (of_decide_eq_true isMember)]
    rfl
  have alone : contents.channels.filter (· == channel) = [channel] := by
    rw [List.filter_beq, List.count_eq_one_of_mem contents.distinctChannels.of_map inChannels]
    rfl
  -- The key names the channel and the condition the user, so one pair of rows is joined
  have wanted (member : Member) (other : Channel) : (other.key == channel.key &&
      (member.userId == user && other.id == member.channelId)) =
        (member == ⟨channel.id, user⟩ && other == channel) := by
    rw [Bool.eq_iff_iff]
    simp only [Bool.and_eq_true, beq_iff_eq]
    constructor
    · rintro ⟨keys, rfl, ids⟩
      obtain rfl := Channel.key_injective keys
      exact ⟨by rw [ids], rfl⟩
    · rintro ⟨rfl, rfl⟩
      exact ⟨rfl, rfl, rfl⟩
  simp only [Contents.joinedOf, Contents.joined, List.filter_flatMap, List.filter_map,
    List.filter_filter, Function.comp_def, wanted]
  rw [flatMap_eq_filter (· == ⟨channel.id, user⟩), once, List.flatMap_singleton]
  · simp only [beq_self_eq_true, Bool.true_and, alone, List.map_singleton]
    exact List.map_eq_flatMap.symm
  · intro member other
    simp [other]

/-! ## The result of the query -/

-- The row of the result for a channel
private def shownChannel (channel : Channel) : Row :=
  [.text channel.id, .optional channel.displayName, .int (contents.boardsOf channel.id).length]

-- The elements of the row of a channel
private def elementsOf (channel : Channel) : List Value :=
  (shownChannel contents channel).map Cell.toValue

omit contents in
private theorem keyOf_frame (joined : Joined) :
    Database.keyOf (listing user).groupBy joined.frame = joined.channel.key := rfl

private theorem kept_listing (encodable : user.isEncodable = true) :
    Database.kept (listing user) (contents.joined.map Joined.frame) =
      (contents.joinedOf user).map Joined.frame := by
  have passed : Database.parameterCell ⟨"UserId_1", .varchar, .text user⟩ = .text user := by
    rw [Database.parameterCell, Cell.ofValue_text 0 user encodable]
  have condition (joined : Joined) : Database.holds (Database.evaluate joined.frame
      (.equals (.column Member.table "UserId") (.parameter ⟨"UserId_1", .varchar, .text user⟩))) =
        (joined.member.userId == user) := by
    have users : Database.evaluate joined.frame
        (.equals (.column Member.table "UserId") (.parameter ⟨"UserId_1", .varchar, .text user⟩)) =
          Database.equal true (.text joined.member.userId)
            (Database.parameterCell ⟨"UserId_1", .varchar, .text user⟩) := rfl
    rw [users, passed, Database.equal_text, Database.holds_ofBool]
  simp only [Database.kept, listing, List.filter_map]
  exact congrArg (List.map _) (List.filter_congr fun joined _ => condition joined)

-- The keys are those of the channels of the user
private theorem keysOf_listing :
    (Database.keysOf (listing user).groupBy ((contents.joinedOf user).map Joined.frame)).Perm
      ((contents.channelsOf user).map Channel.key) := by
  have distinct : (contents.channelsOf user).Nodup :=
    contents.distinctChannels.of_map.filter _
  apply (List.perm_ext_iff_of_nodup (nodup_eraseDups _)
    (distinct.map Channel.key_injective)).mpr
  intro key
  rw [List.mem_eraseDups, List.map_map]
  simp only [List.mem_map, ← exists_joinedOf_iff contents user, Function.comp_apply, keyOf_frame]
  constructor
  · rintro ⟨joined, inRows, rfl⟩
    exact ⟨joined.channel, ⟨joined, inRows, rfl⟩, rfl⟩
  · rintro ⟨_, ⟨joined, inRows, rfl⟩, rfl⟩
    exact ⟨joined, inRows, rfl⟩

-- The row that the group of a channel gives
private theorem evaluateGroup_channel (channel : Channel)
    (selected : channel ∈ contents.channelsOf user) :
    (listing user).outputs.map (fun (e, _) => Database.evaluateGroup
      (Database.withKey (listing user).groupBy ((contents.joinedOf user).map Joined.frame)
        channel.key) e) = shownChannel contents channel := by
  have members : Database.withKey (listing user).groupBy
      ((contents.joinedOf user).map Joined.frame) channel.key =
        (contents.boardsOrNone channel.id).map fun board =>
          Joined.frame ⟨⟨channel.id, user⟩, board, channel⟩ := by
    rw [Database.withKey, List.filter_map]
    refine (congrArg (List.map _) (joinedOf_channel contents user channel selected)).trans ?_
    rw [List.map_map]
    rfl
  have block (board : Option Block) : Database.evaluate
      (Joined.frame ⟨⟨channel.id, user⟩, board, channel⟩) (.column Block.table "id") =
        .optional (board.map (·.id)) := by
    cases board <;> rfl
  -- A missing board is counted as null, and null is not counted
  have count : (((contents.boardsOrNone channel.id).map fun board =>
      Joined.frame ⟨⟨channel.id, user⟩, board, channel⟩).filter fun frame =>
        Database.evaluate frame (.column Block.table "id") != .null).length =
          (contents.boardsOf channel.id).length := by
    rw [List.filter_map, List.length_map]
    simp only [Function.comp_def, block, Contents.boardsOrNone]
    cases contents.boardsOf channel.id with
    | nil => rfl
    | cons board boards =>
      rw [List.filter_eq_self.mpr, List.length_map]
      intro other member
      obtain ⟨present, -, rfl⟩ := List.mem_map.mp member
      rfl
  obtain ⟨board, boards, nonempty⟩ : ∃ board boards,
      contents.boardsOrNone channel.id = board :: boards := by
    obtain ⟨board, member⟩ := exists_mem_boardsOrNone contents channel.id
    exact List.exists_cons_of_ne_nil (List.ne_nil_of_mem member)
  have first : (((contents.boardsOrNone channel.id).map fun board =>
      Joined.frame ⟨⟨channel.id, user⟩, board, channel⟩).headD []) =
        Joined.frame ⟨⟨channel.id, user⟩, board, channel⟩ := by
    rw [nonempty]
    rfl
  rw [members]
  simp only [listing, List.map_cons, List.map_nil, Database.evaluateGroup, first, count]
  rfl

-- The query gives one row for each channel of the user, in some order
private theorem results_listing (encodable : user.isEncodable = true) :
    (Database.results (listing user) (contents.joined.map Joined.frame)).Perm
      ((contents.channelsOf user).map (shownChannel contents)) := by
  have grouped : Database.grouped (listing user) (contents.joined.map Joined.frame) =
      Database.groups (listing user).groupBy ((contents.joinedOf user).map Joined.frame) := by
    rw [← kept_listing contents user encodable]
    rfl
  rw [Database.results, grouped]
  -- One group for each key, one key for each channel, and one row for each group
  refine ((Database.groups_perm _ _).map _).trans ?_
  rw [List.map_map]
  refine ((keysOf_listing contents user).map _).trans (List.Perm.of_eq ?_)
  rw [List.map_map]
  exact List.map_congr_left fun channel selected =>
    evaluateGroup_channel contents user channel selected

omit contents in
private theorem isSendable_listing : ∀ name ∈ (listing user).names, name.isSendable = true := by
  have all : (listing user).names.all Text.isSendable = true := rfl
  exact List.all_eq_true.mp all

variable (tablePrefix : Text) (workspaces : List Row)

-- The query of a listing gives one row for each channel of the user
private theorem run_listing (encodable : user.isEncodable = true) : ∃ rows,
    Database.run .mysql (.query (listing user)) (contents.database tablePrefix workspaces) =
      (.ok ⟨rows, none⟩, contents.database tablePrefix workspaces) ∧
    rows.Perm ((contents.channelsOf user).map (elementsOf contents)) := by
  have bound : Database.bind 1 ((listing user).parameters.map (·.value)) =
      .ok [.text "board", .text Block.nonTemplate, .text user] := by
    rw [show (listing user).parameters.map (·.value) =
      [.text "board", .text Block.nonTemplate, .text user] from rfl, Database.bind_text_ok_iff]
    exact ⟨rfl, _, (Database.bind_text_ok_iff _ _ _ _).mpr
      ⟨rfl, _, (Database.bind_text_ok_iff _ _ _ _).mpr ⟨encodable, _, rfl, rfl⟩, rfl⟩, rfl⟩
  refine ⟨(Database.results (listing user) (contents.joined.map Joined.frame)).map fun row =>
    row.map Cell.toValue, ?_, ?_⟩
  · rw [Database.run, Database.runQuery_eq _ _ _ _ (isSendable_listing user)
      (frames_listing contents tablePrefix workspaces user) bound]
  · have shown := (results_listing contents user encodable).map fun row => row.map Cell.toValue
    rwa [List.map_map] at shown

-- A user without octets cannot be asked for
private theorem run_listing_error (fault : EncodeFault) (refused : user.encodeFault? = some fault) :
    Database.run .mysql (.query (listing user)) (contents.database tablePrefix workspaces) =
      (.error (.unencodable fault), contents.database tablePrefix workspaces) := by
  have bound : Database.bind 1 ((listing user).parameters.map (·.value)) =
      .error (.unencodable fault) := by
    rw [show (listing user).parameters.map (·.value) =
      [.text "board", .text Block.nonTemplate, .text user] from rfl, Database.bind,
      Cell.ofValue_text 1 _ rfl, Database.bind, Cell.ofValue_text 2 _ rfl, Database.bind,
      Cell.ofValue_text_error _ user fault refused]
    rfl
  rw [Database.run, Database.runQuery_bind_error _ _ _ (.unencodable fault)
    (isSendable_listing user) (frames_listing contents tablePrefix workspaces user) bound]

/-! ## Decoding -/

private theorem ofElements_named (channel : Channel) (name : Text)
    (named : channel.displayName = some name) :
    UserWorkspace.ofElements (elementsOf contents channel) =
      .ok ⟨channel.id, name, (contents.boardsOf channel.id).length⟩ := by
  rw [elementsOf, shownChannel, named]
  rfl

private theorem ofElements_unnamed (channel : Channel) (unnamed : channel.displayName = none) :
    ∃ fault, UserWorkspace.ofElements (elementsOf contents channel) = .error fault := by
  rw [elementsOf, shownChannel, unnamed]
  exact ⟨_, rfl⟩

end

section
variable {δ : Type} (context : List (String × Value)) (world : World δ)

-- Rows that can all be decoded give their entries
private theorem decodeRows_decodable (rows : List (List Value))
    (all : ∀ row ∈ rows, ∃ entry, UserWorkspace.ofElements row = .ok entry) :
    (decodeRows context (rows.map .tuple)).result world =
      (.ok (rows.filterMap fun row => (UserWorkspace.ofElements row).toOption), world) := by
  refine decodeRows_ok context world _ _ ?_
  induction rows with
  | nil => exact .nil
  | cons row rows ih =>
    obtain ⟨entry, decoded⟩ := all row List.mem_cons_self
    rw [List.map_cons, List.filterMap_cons, decoded]
    exact .cons ((UserWorkspace.isHeldBy_tuple row entry).mpr decoded)
      (ih fun other member => all other (List.mem_cons_of_mem _ member))

-- A row that cannot be decoded ends the decoding
private theorem decodeRows_undecodable (rows : List (List Value)) (bad : List Value)
    (member : bad ∈ rows) (fault : Fault)
    (undecodable : UserWorkspace.ofElements bad = .error fault) :
    ∃ shown after, (decodeRows context (rows.map .tuple)).result world =
      (.error (.unexpectedRow shown), after) := by
  rcases held_or_bad (rows.map .tuple) with
    ⟨entries, held⟩ | ⟨good, entries, first, behind, split, held, none⟩
  · obtain ⟨entry, decoded⟩ := forall_held _ _ held _ (List.mem_map_of_mem member)
    rw [(UserWorkspace.isHeldBy_tuple bad entry).mp decoded] at undecodable
    cases undecodable
  · have isIn : first ∈ rows.map .tuple := by
      rw [split]
      simp
    obtain ⟨row, -, rfl⟩ := List.mem_map.mp isIn
    obtain ⟨kind, failed⟩ := decodeRows_first context good entries _ held none
    rw [split]
    exact ⟨_, _, failed behind world⟩

end

/-! ## The operation -/

section
variable (tablePrefix : Text) (workspaces : List Row) (contents : Contents) (user : Text)
  (world : World Database) (state : world.database = contents.database tablePrefix workspaces)
include state

omit state in
private theorem result_listingQuery :
    (Step.ofExcept (listingQuery ⟨.mysql, .withPrefix tablePrefix⟩ (.text user)) :
      Step Database Statement).result world = (.ok (.query (listing user)), world) := by
  rw [listingQuery_eq, Step.result_ofExcept]

-- What a listing does with the result of its query
private theorem result_getUserWorkspaces (encodable : user.isEncodable = true) :
    ∃ rows : List (List Value), rows.Perm ((contents.channelsOf user).map (elementsOf contents)) ∧
      (getUserWorkspaces ⟨.mysql, .withPrefix tablePrefix⟩ (.text user)).result world =
        (decodeRows (context ⟨.mysql, .withPrefix tablePrefix⟩)
          (rows.map .tuple)).result world := by
  obtain ⟨rows, run, shown⟩ := run_listing contents user tablePrefix workspaces encodable
  rw [← state] at run
  refine ⟨rows, shown, ?_⟩
  have executed : (logFailure ⟨.mysql, .withPrefix tablePrefix⟩
      ("ERROR get_user_workspaces (user=" ++ (Value.text user).toText ++ ")")
      (Step.execute .mysql (.query (listing user)) : Step Database ResultSet)).result world =
        (.ok ⟨rows, none⟩, world) :=
    logFailure_quiet _ _ _ _ _ _ (execute_embedded world .mysql _ _ run) (by simp)
  rw [getUserWorkspaces, Step.result_bind_ok _ _ _ _ _ (result_listingQuery tablePrefix user world),
    Step.result_bind_ok _ _ _ _ _ (connect_embedded .reading world),
    Step.result_bind_ok _ _ _ _ _ executed, Step.result_bind]
  rcases (decodeRows (context ⟨.mysql, .withPrefix tablePrefix⟩)
    (rows.map .tuple)).result world with ⟨outcome, after⟩
  cases outcome <;> rfl

-- A listing for a user without octets fails
private theorem getUserWorkspaces_unencodable (fault : EncodeFault)
    (refused : user.encodeFault? = some fault) :
    (getUserWorkspaces ⟨.mysql, .withPrefix tablePrefix⟩ (.text user)).result world =
      (.error (.unencodable fault), world) := by
  have run := run_listing_error contents user tablePrefix workspaces fault refused
  rw [← state] at run
  have executed : (logFailure ⟨.mysql, .withPrefix tablePrefix⟩
      ("ERROR get_user_workspaces (user=" ++ (Value.text user).toText ++ ")")
      (Step.execute .mysql (.query (listing user)) : Step Database ResultSet)).result world =
        (.error (.unencodable fault), world) := by
    apply logFailure_quiet _ _ _ _ _ _ (execute_embedded world .mysql _ _ run)
    rintro _ ⟨⟩
    rfl
  rw [getUserWorkspaces, Step.result_bind_ok _ _ _ _ _ (result_listingQuery tablePrefix user world),
    Step.result_bind_ok _ _ _ _ _ (connect_embedded .reading world),
    Step.result_bind_error _ _ _ _ _ executed]

/-- What a store of MySQL's dialect lists for a user: each channel that the user is a member of,
with the number of its boards, in some order. If one of these channels has no name, nothing is
listed. A user without octets cannot be asked for. -/
theorem getUserWorkspaces_spec :
    let outcome :=
      ((getUserWorkspaces ⟨.mysql, .withPrefix tablePrefix⟩ (.text user)).result world).1
    (user.encodeFault? = none →
      (∀ channel ∈ contents.channelsOf user, channel.displayName ≠ none) →
        ∃ entries, outcome = .ok entries ∧ entries.Perm (contents.entriesOf user)) ∧
    (user.encodeFault? = none →
      (∃ channel ∈ contents.channelsOf user, channel.displayName = none) →
        ∃ shown, outcome = .error (.unexpectedRow shown)) ∧
    ∀ fault, user.encodeFault? = some fault → outcome = .error (.unencodable fault) := by
  refine ⟨fun sendable named => ?_, fun sendable unnamed => ?_, fun fault refused => ?_⟩
  · -- Every channel has a name: all rows are decoded
    obtain ⟨rows, shown, eq⟩ := result_getUserWorkspaces tablePrefix workspaces contents user world
      state ((Text.encodeFault?_eq_none_iff user).mp sendable)
    have decoded (channel : Channel) (selected : channel ∈ contents.channelsOf user) :
        (UserWorkspace.ofElements (elementsOf contents channel)).toOption =
          channel.displayName.map fun name =>
            ⟨channel.id, name, (contents.boardsOf channel.id).length⟩ := by
      obtain ⟨name, isName⟩ := Option.ne_none_iff_exists'.mp (named channel selected)
      rw [ofElements_named contents channel name isName, isName]
      rfl
    rw [eq, decodeRows_decodable]
    · refine ⟨_, rfl, (shown.filterMap _).trans (List.Perm.of_eq ?_)⟩
      rw [List.filterMap_map]
      exact List.filterMap_congr decoded
    · intro row member
      obtain ⟨channel, selected, rfl⟩ := List.mem_map.mp (shown.mem_iff.mp member)
      obtain ⟨name, isName⟩ := Option.ne_none_iff_exists'.mp (named channel selected)
      exact ⟨_, ofElements_named contents channel name isName⟩
  · -- One channel has no name: whichever row comes first without one ends the listing
    obtain ⟨rows, shown, eq⟩ := result_getUserWorkspaces tablePrefix workspaces contents user world
      state ((Text.encodeFault?_eq_none_iff user).mp sendable)
    obtain ⟨channel, selected, noName⟩ := unnamed
    obtain ⟨fault, undecodable⟩ := ofElements_unnamed contents channel noName
    obtain ⟨text, after, failed⟩ := decodeRows_undecodable
      (context ⟨.mysql, .withPrefix tablePrefix⟩) world rows _
      (shown.mem_iff.mpr (List.mem_map_of_mem selected)) fault undecodable
    rw [eq, failed]
    exact ⟨text, rfl⟩
  · rw [getUserWorkspaces_unencodable tablePrefix workspaces contents user world state fault
      refused]

end

/-- Two channels of one user, one with a board and a template, the other without. -/
def twoChannels : Contents where
  members := [⟨"a", "u"⟩, ⟨"b", "u"⟩, ⟨"a", "v"⟩, ⟨"gone", "u"⟩]
  channels := [⟨"a", some ("A" : Text)⟩, ⟨"b", some ("B" : Text)⟩, ⟨"c", none⟩]
  blocks :=
    [⟨"1", some ("a" : Text), some ("board" : Text), none,
        some ("\x7b\"isTemplate\":false\x7d" : Text)⟩,
      ⟨"2", some ("a" : Text), some ("board" : Text), none,
        some ("\x7b\"isTemplate\":true\x7d" : Text)⟩,
      ⟨"3", some ("b" : Text), some ("board" : Text), none, none⟩]
  distinctMembers := by decide +kernel
  distinctChannels := by decide +kernel
  distinctBlocks := by decide +kernel

/-- The listing of that user. -/
theorem getUserWorkspaces_two_channels : ∃ entries,
    ((getUserWorkspaces ⟨.mysql, .withPrefix "p_"⟩ (.text "u")).result
      ⟨⟨[], 0⟩, .int 0, [], twoChannels.database "p_" []⟩).1 = .ok entries ∧
        entries.Perm [⟨"a", "A", 1⟩, ⟨"b", "B", 0⟩] := by
  obtain ⟨entries, listed, same⟩ := (getUserWorkspaces_spec "p_" [] twoChannels "u"
    ⟨⟨[], 0⟩, .int 0, [], twoChannels.database "p_" []⟩ rfl).1 (by decide +kernel)
      (by decide +kernel)
  have entriesOf : twoChannels.entriesOf "u" = [⟨"a", "A", 1⟩, ⟨"b", "B", 0⟩] := by decide +kernel
  exact ⟨entries, listed, entriesOf ▸ same⟩

/-- Tables without any row. -/
def noContents : Contents := ⟨[], [], [], List.nodup_nil, List.nodup_nil, List.nodup_nil⟩

/-- A lone surrogate is a member of no channel, and still its listing is not the empty one. -/
theorem lone_surrogate_not_listed :
    noContents.channelsOf [0xd800] = [] ∧ noContents.entriesOf [0xd800] = [] ∧
      ((getUserWorkspaces ⟨.mysql, .withPrefix ""⟩ (.text [0xd800])).result
        ⟨⟨[], 0⟩, .int 0, [], noContents.database "" []⟩).1 ≠ .ok [] := by
  refine ⟨rfl, rfl, fun listed => ?_⟩
  have refused := getUserWorkspaces_unencodable "" [] noContents [0xd800]
    ⟨⟨[], 0⟩, .int 0, [], noContents.database "" []⟩ rfl ⟨0, [0xd800]⟩ rfl
  rw [refused] at listed
  cases listed

end Tenancy.Store
