import Tenancy.Proofs.Database.Query
import Tenancy.Proofs.Store.Row

/-!
# What a listing is made from

The members and the channels of the chat server, the blocks, and the rows that the query of a
listing makes of them: a member with a board of its channel, or with none where the channel has no
board, and with the channel. Texts may be missing where a column allows null.
-/
namespace Tenancy.Store

open Sql

/-- A user in a channel. -/
structure Member where
  channelId : Text
  userId : Text
  deriving DecidableEq

structure Channel where
  id : Text
  displayName : Option Text
  deriving DecidableEq

structure Block where
  id : Text
  workspaceId : Option Text
  type : Option Text
  title : Option Text
  fields : Option Text

namespace Member

/-- The table of members. -/
def table : Table := (Schema.withPrefix []).channelMembers

/-- The cells of a member. -/
def cells (member : Member) : Row := [.text member.channelId, .text member.userId]

end Member

namespace Channel

/-- The table of channels. -/
def table : Table := (Schema.withPrefix []).channels

/-- The cells of a channel. -/
def cells (channel : Channel) : Row := [.text channel.id, .optional channel.displayName]

end Channel

namespace Block

/-- The table of blocks. -/
def table : Table := (Schema.withPrefix []).blocks

/-- The cells of a block. -/
def cells (block : Block) : Row :=
  [.text block.id, .optional block.workspaceId, .optional block.type, .optional block.title,
    .optional block.fields]

/-- The pattern of the fields of what is no template. -/
def nonTemplate : Text := "%\"isTemplate\":false%"

/-- Whether a block is a board of a channel and no template. -/
def isBoardOf (block : Block) (channelId : Text) : Bool :=
  -- A pattern sees a text up to its first null character
  block.workspaceId == some channelId && block.type == some ("board" : Text) &&
    block.fields.any fun fields =>
      Text.isLike nonTemplate (fields.takeWhile fun c => c.val != 0)

end Block

/-- The rows of the three tables. The keys of members and channels are unique. -/
structure Contents where
  members : List Member
  channels : List Channel
  blocks : List Block
  distinctMembers : members.Nodup
  distinctChannels : (channels.map (·.id)).Nodup
  distinctBlocks : (blocks.map (·.id)).Nodup

/-- A row of the query. -/
structure Joined where
  member : Member
  board : Option Block
  channel : Channel

/-- A row of the query, table by table. -/
def Joined.frame (joined : Joined) : Database.Frame :=
  [(Member.table, joined.member.cells),
    (Block.table, joined.board.elim (Block.table.columns.map fun _ => .null) Block.cells),
    (Channel.table, joined.channel.cells)]

namespace Contents

variable (contents : Contents)

/-- A database of these tables, and of any table of workspaces. -/
def database (tablePrefix : Text) (workspaces : List Row) : Database :=
  ⟨[⟨(Schema.withPrefix tablePrefix).workspaces, workspaces⟩,
    ⟨Block.table, contents.blocks.map Block.cells⟩,
    ⟨Member.table, contents.members.map Member.cells⟩,
    ⟨Channel.table, contents.channels.map Channel.cells⟩]⟩

/-- The boards of a channel. -/
def boardsOf (channelId : Text) : List Block := contents.blocks.filter (·.isBoardOf channelId)

/-- The boards that a member is joined with: none at all is joined as one that is missing. -/
def boardsOrNone (channelId : Text) : List (Option Block) :=
  match contents.boardsOf channelId with
  | [] => [none]
  | boards => boards.map some

/-- The rows of the query. -/
def joined : List Joined :=
  contents.members.flatMap fun member =>
    (contents.boardsOrNone member.channelId).flatMap fun board =>
      (contents.channels.filter (·.id == member.channelId)).map fun channel =>
        ⟨member, board, channel⟩

end Contents

/-! ## The query -/

-- The condition on a board beside a member
private def isBoard : Expr :=
  .and (.equals (.column Block.table "workspace_id") (.column Member.table "ChannelId"))
    (.and (.equals (.column Block.table "type") (.parameter ⟨"type_1", .varchar, .text "board"⟩))
      (.like (.column Block.table "fields") ⟨"fields_1", .varchar, .text Block.nonTemplate⟩))

/-- The query of a listing. -/
def listing (user : Text) : Query :=
  { outputs :=
      [(.column Channel.table "Id", none), (.column Channel.table "DisplayName", none),
        (.count (.column Block.table "id"), some "count_1")]
    source :=
      .join (.leftJoin (.table Member.table) Block.table isBoard) Channel.table
        (.equals (.column Member.table "ChannelId") (.column Channel.table "Id"))
    condition := some
      (.equals (.column Member.table "UserId") (.parameter ⟨"UserId_1", .varchar, .text user⟩))
    groupBy := [.column Channel.table "Id", .column Channel.table "DisplayName"] }

theorem listingQuery_eq (tablePrefix user : Text) :
    listingQuery ⟨.mysql, .withPrefix tablePrefix⟩ (.text user) = .ok (.query (listing user)) :=
  rfl

/-! ## Its rows -/

section
variable (contents : Contents) (tablePrefix : Text) (workspaces : List Row)

private theorem find_listed (table : Table) (rows : List Row)
    (listed : (table, rows) ∈ [(Block.table, contents.blocks.map Block.cells),
      (Member.table, contents.members.map Member.cells),
      (Channel.table, contents.channels.map Channel.cells)]) :
    (contents.database tablePrefix workspaces).find table.name = .ok ⟨table, rows⟩ := by
  have other : Database.sameName (Schema.withPrefix tablePrefix).workspaces.name table.name =
      false := by
    rw [Database.sameName_comm]
    apply sameName_workspaces
    simp only [List.mem_cons, List.not_mem_nil, or_false, Prod.mk.injEq] at listed
    rcases listed with ⟨rfl, -⟩ | ⟨rfl, -⟩ | ⟨rfl, -⟩
    · exact List.mem_cons_self
    · exact List.mem_cons_of_mem _ List.mem_cons_self
    · exact List.mem_cons_of_mem _ (List.mem_cons_of_mem _ List.mem_cons_self)
  rw [Database.find, Contents.database, List.find?_cons, other]
  simp only [List.mem_cons, List.not_mem_nil, or_false, Prod.mk.injEq] at listed
  rcases listed with ⟨rfl, rfl⟩ | ⟨rfl, rfl⟩ | ⟨rfl, rfl⟩ <;> rfl

-- The frame of a member
private def memberFrame (member : Member) : Database.Frame := [(Member.table, member.cells)]

-- The frame of a member and a board
private def boardFrame (member : Member) (board : Option Block) : Database.Frame :=
  memberFrame member ++
    [(Block.table, board.elim (Block.table.columns.map fun _ => .null) Block.cells)]

-- A block is joined with a member if it is a board of its channel
private theorem holds_isBoard (member : Member) (block : Block) :
    Database.holds (Database.evaluate (boardFrame member (some block)) isBoard) =
      block.isBoardOf member.channelId := by
  have owner : Database.evaluate (boardFrame member (some block))
      (.equals (.column Block.table "workspace_id") (.column Member.table "ChannelId")) =
        Database.equal true (.optional block.workspaceId) (.text member.channelId) := rfl
  have type : Database.evaluate (boardFrame member (some block))
      (.equals (.column Block.table "type") (.parameter ⟨"type_1", .varchar, .text "board"⟩)) =
        Database.equal true (.optional block.type) (.text "board") := rfl
  have fields : Database.holds (Database.evaluate (boardFrame member (some block))
      (.like (.column Block.table "fields") ⟨"fields_1", .varchar, .text Block.nonTemplate⟩)) =
        block.fields.any fun fields =>
          Text.isLike Block.nonTemplate (fields.takeWhile fun c => c.val != 0) := by
    have column : Database.evaluate (boardFrame member (some block))
        (.column Block.table "fields") = .optional block.fields := rfl
    have pattern : Database.parameterCell ⟨"fields_1", .varchar, .text Block.nonTemplate⟩ =
        .text Block.nonTemplate := rfl
    have whole : Database.patternText (.text Block.nonTemplate) = Block.nonTemplate := rfl
    rw [Database.evaluate, column, pattern]
    cases block.fields with
    -- Null is like no pattern
    | none => rfl
    | some t =>
      rw [if_neg (by simp [Cell.optional]), Database.holds_ofBool, whole]
      rfl
  rw [isBoard, Database.holds_and, Database.holds_and, owner, type, fields,
    Database.holds_equal_optional, Database.holds_equal_optional, Block.isBoardOf, Bool.and_assoc]

private theorem frames_members :
    Database.frames (contents.database tablePrefix workspaces) (.table Member.table) =
      .ok (contents.members.map memberFrame) := by
  rw [Database.frames, find_listed contents tablePrefix workspaces _ _
    (List.mem_cons_of_mem _ List.mem_cons_self)]
  exact congrArg Except.ok (List.map_map ..)

private theorem frames_boards :
    Database.frames (contents.database tablePrefix workspaces)
      (.leftJoin (.table Member.table) Block.table isBoard) =
        .ok (contents.members.flatMap fun member =>
          (contents.boardsOrNone member.channelId).map (boardFrame member)) := by
  have matching (member : Member) :
      ((contents.blocks.map Block.cells).map fun row =>
        memberFrame member ++ [(Block.table, row)]).filter
          (fun joined => Database.holds (Database.evaluate joined isBoard)) =
        (contents.boardsOf member.channelId).map fun block => boardFrame member (some block) := by
    rw [List.map_map, List.filter_map]
    exact congrArg (List.map _) (List.filter_congr fun block _ => holds_isBoard member block)
  rw [Database.frames, frames_members, find_listed contents tablePrefix workspaces _ _
    List.mem_cons_self]
  refine congrArg Except.ok ((List.flatMap_map ..).trans ?_)
  congr 1
  funext member
  rw [matching, Contents.boardsOrNone]
  -- A member without a board is joined with a row of nulls
  cases contents.boardsOf member.channelId with
  | nil => rfl
  | cons board boards =>
    simp only [List.map_cons, List.map_map]
    rfl

/-- The rows of the query are the joined ones. -/
theorem frames_listing (user : Text) :
    Database.frames (contents.database tablePrefix workspaces) (listing user).source =
      .ok (contents.joined.map Joined.frame) := by
  have matching (member : Member) (board : Option Block) :
      ((contents.channels.map Channel.cells).map fun row =>
        boardFrame member board ++ [(Channel.table, row)]).filter (fun joined =>
          Database.holds (Database.evaluate joined
            (.equals (.column Member.table "ChannelId") (.column Channel.table "Id")))) =
        (contents.channels.filter (·.id == member.channelId)).map fun channel =>
          Joined.frame ⟨member, board, channel⟩ := by
    rw [List.map_map, List.filter_map]
    refine congrArg (List.map _) (List.filter_congr fun channel _ => ?_)
    have ids : Database.evaluate (boardFrame member board ++ [(Channel.table, channel.cells)])
        (.equals (.column Member.table "ChannelId") (.column Channel.table "Id")) =
          Database.equal true (.text member.channelId) (.text channel.id) := rfl
    rw [Function.comp_apply, Function.comp_apply, ids, Database.equal_text, Database.holds_ofBool,
      Bool.beq_comm]
  rw [listing, Database.frames, frames_boards, find_listed contents tablePrefix workspaces _ _
    (List.mem_cons_of_mem _ (List.mem_cons_of_mem _ List.mem_cons_self))]
  refine congrArg Except.ok ?_
  simp only [Contents.joined, List.flatMap_assoc, List.map_flatMap, List.flatMap_map, matching]
  simp only [List.map_map, Function.comp_def]

end

end Tenancy.Store
