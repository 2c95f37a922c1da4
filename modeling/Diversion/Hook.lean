import Diversion.Settings
import Diversion.Filter.Reach

/-!
# `Diversion.Hook` — where a filter is attached

A filter is attached at hooks of the network stack: at the network layer one hook per
direction and IP version, at the forward layer one per IP version. The plan attaches only the
hooks where the program's analysis says a packet can be accepted, so a filter that can never
accept attaches nowhere. The hooks' weight orders filters: a higher priority gives a lower
weight, `1000 - priority` taken modulo 2^16.

## Contents
- `Hook`, `Hook.text`, `Hook.isIpv4`.
- `HookPlan`, `HookPlan.derive`, `HookPlan.empty`, `HookPlan.text`.
-/

namespace Diversion

/-- **A hook in the network stack.** -/
inductive Hook
  | inboundIpv4
  | outboundIpv4
  | inboundIpv6
  | outboundIpv6
  | forwardIpv4
  | forwardIpv6
  deriving DecidableEq, Repr, Inhabited

namespace Hook

/-- Every hook, in report order. -/
def all : List Hook := [inboundIpv4, outboundIpv4, inboundIpv6, outboundIpv6, forwardIpv4, forwardIpv6]

/-- Whether the hook sees IPv4 traffic. -/
def isIpv4 : Hook → Bool
  | inboundIpv4 | outboundIpv4 | forwardIpv4 => true
  | _ => false

/-- The hook's name. -/
def text : Hook → String
  | inboundIpv4 => "network (inbound IPv4)"
  | outboundIpv4 => "network (outbound IPv4)"
  | inboundIpv6 => "network (inbound IPv6)"
  | outboundIpv6 => "network (outbound IPv6)"
  | forwardIpv4 => "network (forward IPv4)"
  | forwardIpv6 => "network (forward IPv6)"

end Hook

/-- **Where a filter is attached**, and with what weight. -/
structure HookPlan where
  layer : Layer
  analysis : Analysis
  hooks : List Hook
  weight : Nat
  deriving DecidableEq, Repr, Inhabited

namespace HookPlan

/-- The weight of a priority: `1000 - priority` modulo 2^16. -/
def weightOf (priority : Int) : Nat := ((priorityMax - priority) % 65536).toNat

/-- **The plan for an analysis**: network-layer hooks whose direction and version are both
possible; forward-layer hooks whose version is possible. -/
def derive (layer : Layer) (a : Analysis) (priority : Int) : HookPlan :=
  let hooks := match layer with
    | .network =>
      ([(a.inbound && a.ipv4, Hook.inboundIpv4), (a.outbound && a.ipv4, .outboundIpv4),
        (a.inbound && a.ipv6, .inboundIpv6), (a.outbound && a.ipv6, .outboundIpv6)].filter
          (·.1)).map (·.2)
    | .networkForward =>
      ([(a.ipv4, Hook.forwardIpv4), (a.ipv6, .forwardIpv6)].filter (·.1)).map (·.2)
  { layer, analysis := a, hooks, weight := weightOf priority }

/-- The plan of a filter that accepts nothing. -/
def empty (layer : Layer) (priority : Int) : HookPlan := derive layer {} priority

/-- Whether nothing is attached. -/
def isEmpty (p : HookPlan) : Bool := p.hooks.isEmpty

/-- Whether hook `h` is attached. -/
def contains (p : HookPlan) (h : Hook) : Bool := p.hooks.contains h

/-- **Text of a plan**: the hooks and the weight, or `no hooks`. -/
def text (p : HookPlan) : String :=
  if p.hooks.isEmpty then "no hooks"
  else ", ".intercalate (p.hooks.map Hook.text) ++ s!" (weight {p.weight})"

end HookPlan

end Diversion
