import MixedTraffic.Key

namespace MixedTraffic

/-! Departure times are spread by a generator of each agent's own, so that a draw depends
neither on the order in which agents are created nor on those added after it. Whatever is
proved of a sweep uses of the draws only that each lies below its bound. -/

structure Generator where
  a : UInt64
  b : UInt64
  c : UInt64
  d : UInt64

namespace Generator

def rotateLeft (x : UInt64) (n : UInt64) : UInt64 :=
  x <<< n ||| x >>> (64 - n)

def rotateRight (x : UInt32) (n : UInt32) : UInt32 :=
  x >>> n ||| x <<< (32 - n)

/-- One step of the sequence that spreads a seed: the next state and a 32-bit word. -/
def spread (state : UInt64) : UInt64 × UInt64 :=
  let state := state * 6364136223846793005 + 11634580027462260723
  let word := rotateRight ((state >>> 18 ^^^ state) >>> 27).toUInt32 (state >>> 59).toUInt32
  (state, word.toUInt64)

def spreadTwice (state : UInt64) : UInt64 × UInt64 :=
  let (state, low) := spread state
  let (state, high) := spread state
  (state, low ||| high <<< 32)

def ofSeed (seed : UInt64) : Generator :=
  let (seed, a) := spreadTwice seed
  let (seed, b) := spreadTwice seed
  let (seed, c) := spreadTwice seed
  let (_, d) := spreadTwice seed
  ⟨a, b, c, d⟩

def forAgent (seed : Nat) (agent : AgentId) : Generator :=
  ofSeed (UInt64.ofNat seed ^^^ UInt64.ofNat agent.index * 0x9e3779b97f4a7c15)

def next (g : Generator) : UInt64 × Generator :=
  let result := rotateLeft (g.a + g.d) 23 + g.a
  let c := g.c ^^^ g.a
  let d := g.d ^^^ g.b
  (result, ⟨g.a ^^^ d, g.b ^^^ c, c ^^^ g.b <<< 17, rotateLeft d 45⟩)

def nextWord (g : Generator) : Nat × Generator :=
  let (word, g) := g.next
  ((word >>> 32).toNat, g)

/-- A number below `width`, drawn without bias: words beyond the largest multiple of `width`
scaled to 32 bits are drawn again. -/
def draw (width : Nat) : Nat → Generator → Nat × Generator
  | 0, g => (0, g)
  | attempts + 1, g =>
      let zone := width <<< (31 - width.log2) - 1
      let (word, g) := g.nextWord
      let product := word * width
      if product % 0x100000000 ≤ zone then (product / 0x100000000, g) else draw width attempts g

/-- A whole second within a window, zero without a draw for an empty one. The attempts are as
many as the generator has states, after which it repeats itself. -/
def secsWithin (g : Generator) (window : Nat) : Nat × Generator :=
  if window = 0 then (0, g) else draw window (1 <<< 256) g

def secsWithinEach (g : Generator) : List Nat → List Nat
  | [] => []
  | window :: rest =>
      let (secs, g) := g.secsWithin window
      secs :: g.secsWithinEach rest

end Generator

end MixedTraffic
