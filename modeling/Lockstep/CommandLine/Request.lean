import Lockstep.Snapshot.Repository

/-! What the commands are asked for, apart from settings. -/
namespace Lockstep

structure CheckRequest where
  base : Text := "HEAD"
  head : Text := workTree
  json : Bool := false

structure RegionsRequest where
  ref : Text := workTree
  paths : List Path := []
  json : Bool := false

end Lockstep
