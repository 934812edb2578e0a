import SqlConsole.Proofs.Console.Request

/-! What comes out of a dot line that nobody deals with, wherever the console has come to. -/
namespace SqlConsole.Console

/-- What a line may fail with in a scene, where files may go that deep. -/
inductive LineBreaks (script : Engine.Script) (depth : Nat) (line : List Char) (s : Scene Console) :
    Failure → Prop where
  | escapes {command : Command} {arguments : List String} {f : Failure}
      (hline : Means line command arguments) (hf : Escapes script command arguments f) :
      LineBreaks script depth line s f
  | deep {source : Source} (hfile : AsksFor line s source) (hdepth : depth = 0) :
      LineBreaks script depth line s .tooDeep
  /-- Reading a file fails at a place there, or in a file that a line there asks for. -/
  | file {d : Nat} {source : Source} {trail : List Nat} {q : Place} {f : Failure}
      (hfile : AsksFor line s source) (hdepth : depth = d + 1)
      (hvisits : Visits (.opened d source s) trail q) (hf : q.Breaks script f) :
      LineBreaks script depth line s f
  /-- Something does not get into a sink. -/
  | refused {k : Sink} {fault : SinkFault} (hk : s.world.Refuses k) :
      LineBreaks script depth line s (.sink k fault)

variable {s₀ s s' : Scene Console} {depth : Nat} {line : List Char} {f : Failure}

end SqlConsole.Console
