import IPv6Suite.NDMessageFields

namespace IPv6Suite

open Lib ICMPv6NDMessage

variable {msg msg' : ICMPv6NDMessage}

namespace ICMPv6NDMRtrSol

inductive Call where
  | setSrcLLAddr (addr : String) (len : BitVec 32)
  | removeOptions

def call (msg : ICMPv6NDMessage) : Call → Exec ICMPv6NDMessage
  | .setSrcLLAddr addr len => msg.setLLAddress true addr len
  | .removeOptions => msg.removeOptions

/-- The source link-layer address after a call -/
def called (_srcLLAddr : String) : Call → String
  | .setSrcLLAddr addr _ => addr
  | .removeOptions => ""

end ICMPv6NDMRtrSol

def rtrSol : ObjectClass where
  Object := ICMPv6NDMessage
  Ctor := Unit
  Call := ICMPv6NDMRtrSol.Call
  Values := String
  create _ := .ok ICMPv6NDMessage.create
  call := ICMPv6NDMRtrSol.call
  copy := ICMPv6NDMessage.copy
  assign := ICMPv6NDMessage.assign
  created _ := ""
  called := ICMPv6NDMRtrSol.called

def rtrSolStores : rtrSol.Condition where
  created _ := True
  called (msg : ICMPv6NDMessage) : ICMPv6NDMRtrSol.Call → Prop
    | .setSrcLLAddr addr len => msg.Addresses addr len
    | .removeOptions => True

namespace ICMPv6NDMNgbrSol

structure Args where
  targetAddr : Ipv6Addr
  srcLLAddr : String

inductive Call where
  | setTargetAddr (target : Ipv6Addr)
  | setSrcLLAddr (addr : String) (len : BitVec 32)
  | removeOptions

def call (msg : ICMPv6NDMessage) : Call → Exec ICMPv6NDMessage
  | .setTargetAddr target => .ok (setTargetAddr msg target)
  | .setSrcLLAddr addr len => msg.setLLAddress true addr len
  | .removeOptions => msg.removeOptions

/-- The target address and the source link-layer address -/
abbrev Values := Ipv6Addr × String

def view (msg : ICMPv6NDMessage) : Values := (msg.address, msg.llAddress)

def called (values : Values) : Call → Values
  | .setTargetAddr target => (target, values.2)
  | .setSrcLLAddr addr _ => (values.1, addr)
  | .removeOptions => (values.1, "")

end ICMPv6NDMNgbrSol

def ngbrSol : ObjectClass where
  Object := ICMPv6NDMessage
  Ctor := ICMPv6NDMNgbrSol.Args
  Call := ICMPv6NDMNgbrSol.Call
  Values := ICMPv6NDMNgbrSol.Values
  create args := ICMPv6NDMNgbrSol.create args.targetAddr args.srcLLAddr
  call := ICMPv6NDMNgbrSol.call
  copy := ICMPv6NDMessage.copy
  assign := ICMPv6NDMessage.assign
  created args := (args.targetAddr, args.srcLLAddr)
  called := ICMPv6NDMNgbrSol.called

def ngbrSolStores : ngbrSol.Condition where
  created _ := True
  called (msg : ICMPv6NDMessage) : ICMPv6NDMNgbrSol.Call → Prop
    | .setSrcLLAddr addr len => msg.Addresses addr len
    | _ => True

namespace ICMPv6NDMNgbrAd

structure Args where
  targetAddr : Ipv6Addr
  addr : String
  isRouter : Bool
  solicited : Bool
  override : Bool

inductive Call where
  | setTargetAddr (target : Ipv6Addr)
  | setIsRouter (isRouter : Bool)
  | setSolicited (solicited : Bool)
  | setOverride (override : Bool)
  | setFlags (isRouter solicited override : Bool)
  | setTargetLLAddr (addr : String) (len : BitVec 32)
  | removeOptions

def call (msg : ICMPv6NDMessage) : Call → Exec ICMPv6NDMessage
  | .setTargetAddr target => .ok (setTargetAddr msg target)
  | .setIsRouter isRouter => .ok (setIsRouter msg isRouter)
  | .setSolicited solicited => .ok (setSolicited msg solicited)
  | .setOverride override => .ok (setOverride msg override)
  | .setFlags isRouter solicited override => .ok (setFlags msg isRouter solicited override)
  | .setTargetLLAddr addr len => msg.setLLAddress false addr len
  | .removeOptions => msg.removeOptions

structure Values where
  targetAddr : Ipv6Addr
  isRouter : Bool
  solicited : Bool
  override : Bool
  targetLLAddr : String
deriving DecidableEq

def view (msg : ICMPv6NDMessage) : Values :=
  ⟨msg.address, isRouter msg, solicited msg, override msg, msg.llAddress⟩

def called (values : Values) : Call → Values
  | .setTargetAddr target => { values with targetAddr := target }
  | .setIsRouter isRouter => { values with isRouter }
  | .setSolicited solicited => { values with solicited }
  | .setOverride override => { values with override }
  | .setFlags isRouter solicited override => { values with isRouter, solicited, override }
  | .setTargetLLAddr addr _ => { values with targetLLAddr := addr }
  | .removeOptions => { values with targetLLAddr := "" }

end ICMPv6NDMNgbrAd

def ngbrAd : ObjectClass where
  Object := ICMPv6NDMessage
  Ctor := ICMPv6NDMNgbrAd.Args
  Call := ICMPv6NDMNgbrAd.Call
  Values := ICMPv6NDMNgbrAd.Values
  create args := ICMPv6NDMNgbrAd.create args.targetAddr args.addr args.isRouter args.solicited args.override
  call := ICMPv6NDMNgbrAd.call
  copy := ICMPv6NDMessage.copy
  assign := ICMPv6NDMessage.assign
  created args := ⟨args.targetAddr, args.isRouter, args.solicited, args.override, args.addr⟩
  called := ICMPv6NDMNgbrAd.called

def ngbrAdStores : ngbrAd.Condition where
  created (args : ICMPv6NDMNgbrAd.Args) := args.addr ≠ ""
  called (msg : ICMPv6NDMessage) : ICMPv6NDMNgbrAd.Call → Prop
    | .setTargetLLAddr addr len => msg.Addresses addr len
    | _ => True

def optMTU : ObjectClass where
  Object := ICMPv6NDOptMTU
  Ctor := BitVec 32 × BitVec 32
  Call := BitVec 32
  Values := BitVec 32
  create args := .ok (ICMPv6NDOptMTU.create args.1 args.2)
  call opt link_mtu := .ok (opt.setMTU link_mtu)
  copy opt := .ok opt
  assign _ src := .ok src
  created args := args.1
  called _ link_mtu := link_mtu

def optMTUStores : optMTU.Condition where
  created (args : BitVec 32 × BitVec 32) := args.2 = args.1
  called _ _ := True

theorem optMTU_keeps : optMTU.Keeps optMTUStores fun opt values => ICMPv6NDOptMTU.mtu opt = values where
  create meets creates := by
    cases creates
    exact meets
  call _ _ calls := by
    cases calls
    rfl
  copy shows copies := by
    cases copies
    exact shows
  assign _ shows assigns := by
    cases assigns
    exact shows

theorem copy_keeps {α : Type} {view : ICMPv6NDMessage → α} {values : α} {src : ICMPv6NDMessage}
    (shows : view src = values) (assigns : msg.assign src = .ok msg') : view msg' = values := by
  rw [assign_ok assigns]
  exact shows

theorem llAddress_set {source : Bool} {addr : String} {len : BitVec 32}
    (sets : msg.setLLAddress source addr len = .ok msg') : msg'.llAddress = addr := by
  obtain ⟨opt, length, same, sets⟩ := setLLAddress_ok sets
  rw [sets]
  exact same

theorem rtrSol_keeps : rtrSol.Keeps rtrSolStores fun msg values => llAddress msg = values where
  create _ creates := by
    cases creates
    rfl
  call {msg values call next} _ _ calls := by
    cases call with
    | setSrcLLAddr addr len => exact llAddress_set calls
    | removeOptions =>
        rw [removeOptions_ok calls]
        rfl
  copy := copy_keeps
  assign _ := copy_keeps

theorem ngbrSol_keeps : ngbrSol.Keeps ngbrSolStores fun msg values => ICMPv6NDMNgbrSol.view msg = values where
  create {args msg} _ creates := by
    change ICMPv6NDMNgbrSol.create args.targetAddr args.srcLLAddr = .ok msg at creates
    unfold ICMPv6NDMNgbrSol.create at creates
    dsimp only at creates
    split at creates
    · obtain ⟨opt, length, same, sets⟩ := setLLAddress_ok creates
      rw [sets]
      exact congrArg (Prod.mk args.targetAddr) same
    · rename_i empty
      cases creates
      exact congrArg (Prod.mk args.targetAddr) (not_not.mp empty).symm
  call {msg values call next} shows _ calls := by
    subst shows
    cases call with
    | setTargetAddr target =>
        cases calls
        rfl
    | setSrcLLAddr addr len =>
        obtain ⟨opt, length, same, sets⟩ := setLLAddress_ok calls
        rw [sets]
        exact congrArg (Prod.mk _) same
    | removeOptions =>
        rw [removeOptions_ok calls]
        rfl
  copy := copy_keeps
  assign _ := copy_keeps

namespace ICMPv6NDMNgbrAd

/-- The flags are the three highest bits. -/
theorem view_eq : view msg = ⟨msg.address, msg.optInfo.getLsbD 31, msg.optInfo.getLsbD 30,
    msg.optInfo.getLsbD 29, msg.llAddress⟩ := by
  unfold view isRouter solicited override
  rw [flag_eq isRouterMask_eq (by decide), flag_eq solicitedMask_eq (by decide), flag_eq overrideMask_eq (by decide)]

variable {b : Bool}

theorem view_setIsRouter : view (setIsRouter msg b) = { view msg with isRouter := b } := by
  rw [view_eq, view_eq]
  unfold setIsRouter
  rw [optInfo_setFlag isRouterMask_eq, Flags.getLsbD_put_same (by decide), Flags.getLsbD_put_ne (by decide),
    Flags.getLsbD_put_ne (by decide)]
  rfl

theorem view_setSolicited : view (setSolicited msg b) = { view msg with solicited := b } := by
  rw [view_eq, view_eq]
  unfold setSolicited
  rw [optInfo_setFlag solicitedMask_eq, Flags.getLsbD_put_ne (by decide), Flags.getLsbD_put_same (by decide),
    Flags.getLsbD_put_ne (by decide)]
  rfl

theorem view_setOverride : view (setOverride msg b) = { view msg with override := b } := by
  rw [view_eq, view_eq]
  unfold setOverride
  rw [optInfo_setFlag overrideMask_eq, Flags.getLsbD_put_ne (by decide), Flags.getLsbD_put_ne (by decide),
    Flags.getLsbD_put_same (by decide)]
  rfl

theorem view_setFlags {r s o : Bool} :
    view (setFlags msg r s o) = { view msg with isRouter := r, solicited := s, override := o } := by
  unfold setFlags
  rw [view_setOverride, view_setSolicited, view_setIsRouter]

theorem create_view {args : Args}
    (creates : create args.targetAddr args.addr args.isRouter args.solicited args.override = .ok msg) :
    view msg = ⟨args.targetAddr, args.isRouter, args.solicited, args.override, args.addr⟩ := by
  let flagged := setFlags (setTargetAddr ICMPv6NDMessage.create args.targetAddr) args.isRouter args.solicited
    args.override
  have sets : flagged.setLLAddress false args.addr 1 = .ok msg := creates
  obtain ⟨opt, length, same, rfl⟩ := setLLAddress_ok sets
  calc view { flagged with length, opt0 := some opt }
      = { view flagged with targetLLAddr := opt.addr } := rfl
    _ = ⟨args.targetAddr, args.isRouter, args.solicited, args.override, args.addr⟩ := by
      rw [view_setFlags, same]
      rfl

end ICMPv6NDMNgbrAd

theorem ngbrAd_keeps : ngbrAd.Keeps ngbrAdStores fun msg values => ICMPv6NDMNgbrAd.view msg = values where
  create _ creates := ICMPv6NDMNgbrAd.create_view creates
  call {msg values call next} shows _ calls := by
    subst shows
    cases call with
    | setTargetAddr target =>
        cases calls
        rfl
    | setIsRouter isRouter =>
        cases calls
        exact ICMPv6NDMNgbrAd.view_setIsRouter
    | setSolicited solicited =>
        cases calls
        exact ICMPv6NDMNgbrAd.view_setSolicited
    | setOverride override =>
        cases calls
        exact ICMPv6NDMNgbrAd.view_setOverride
    | setFlags isRouter solicited override =>
        cases calls
        exact ICMPv6NDMNgbrAd.view_setFlags
    | setTargetLLAddr addr len =>
        obtain ⟨opt, length, same, sets⟩ := setLLAddress_ok calls
        rw [sets]
        exact congrArg (fun addr => { ICMPv6NDMNgbrAd.view msg with targetLLAddr := addr }) same
    | removeOptions =>
        rw [removeOptions_ok calls]
        rfl
  copy := copy_keeps
  assign _ := copy_keeps

end IPv6Suite
