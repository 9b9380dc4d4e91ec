import Haulage.Storage.Store

/-! A store that answers from lists of replies laid down beforehand, one for each kind of call. When
the replies of a kind are used up, connecting and storing succeed, listings are empty, and a deletion
names the keys that were asked for. -/
namespace Haulage

structure Rehearsal where
  connects : List (Option Fault)
  lists : List (Except Fault Page)
  /-- A reply without keys of its own names those that were asked for. -/
  deletes : List (Except Fault (Option (List String)))
  puts : List (Option Fault)

namespace Rehearsal

private def failing {α : Type} (reply : Option Fault) (value : α) : Except Fault α :=
  match reply with
  | some fault => .error fault
  | none => .ok value

private def emptyPage : Page := { items := [], truncated := false, token := none }

private def store : Store Rehearsal where
  list _ _ state :=
    ((state.lists.head?).getD (.ok emptyPage), { state with lists := state.lists.drop 1 })
  delete _ keys state :=
    (((state.deletes.head?).getD (.ok none)).map (·.getD keys),
      { state with deletes := state.deletes.drop 1 })
  put path source tree state :=
    let size := ((tree.read source).toOption.map List.length).getD 0
    (failing state.puts.head?.join (ObjectInfo.file path.key size),
      { state with puts := state.puts.drop 1 })

def connector : Connector Rehearsal where
  connect state :=
    (failing state.connects.head?.join store, { state with connects := state.connects.drop 1 })

end Rehearsal

end Haulage
