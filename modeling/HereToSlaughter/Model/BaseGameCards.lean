import HereToSlaughter.Model.Registry

/-!
# The printed cards of the base game

The cards of the base set, in the order the source prints them. A monster's row reads: what it
fights back under, what it is slain from, the direction of its roll, and who must stand in the
party.

Reference: `data/base-game-cards.ts`.
-/

namespace HereToSlaughter

/-- `baseHeroes`. -/
def baseHeroes : List Card := [
  ⟨"hero-001", "Bad Axe", "base", .hero .fighter 8⟩,
  ⟨"hero-002", "Fury Knuckle", "base", .hero .fighter 5⟩,
  ⟨"hero-003", "Beary Wise", "base", .hero .fighter 7⟩,
  ⟨"hero-004", "Heavy Bear", "base", .hero .fighter 5⟩,
  ⟨"hero-005", "Bear Claw", "base", .hero .fighter 7⟩,
  ⟨"hero-006", "Tough Teddy", "base", .hero .fighter 4⟩,
  ⟨"hero-007", "Qi Bear", "base", .hero .fighter 10⟩,
  ⟨"hero-008", "Pan Chucks", "base", .hero .fighter 8⟩,
  ⟨"hero-009", "Serious Grey", "base", .hero .ranger 9⟩,
  ⟨"hero-010", "Quick Draw", "base", .hero .ranger 8⟩,
  ⟨"hero-011", "Lookie Rookie", "base", .hero .ranger 5⟩,
  ⟨"hero-012", "Wildshot", "base", .hero .ranger 8⟩,
  ⟨"hero-013", "Hook", "base", .hero .ranger 6⟩,
  ⟨"hero-014", "Bullseye", "base", .hero .ranger 7⟩,
  ⟨"hero-015", "Wily Red", "base", .hero .ranger 10⟩,
  ⟨"hero-016", "Sharp Fox", "base", .hero .ranger 5⟩,
  ⟨"hero-017", "Kit Napper", "base", .hero .thief 9⟩,
  ⟨"hero-018", "Sly Pickings", "base", .hero .thief 6⟩,
  ⟨"hero-019", "Meowzio", "base", .hero .thief 10⟩,
  ⟨"hero-020", "Plundering Puma", "base", .hero .thief 6⟩,
  ⟨"hero-021", "Silent Shadow", "base", .hero .thief 8⟩,
  ⟨"hero-022", "Slippery Paws", "base", .hero .thief 6⟩,
  ⟨"hero-023", "Shurikitty", "base", .hero .thief 9⟩,
  ⟨"hero-024", "Smooth Mimimeow", "base", .hero .thief 7⟩,
  ⟨"hero-025", "Guiding Light", "base", .hero .guardian 7⟩,
  ⟨"hero-026", "Holy Curselifter", "base", .hero .guardian 5⟩,
  ⟨"hero-027", "Radiant Horn", "base", .hero .guardian 6⟩,
  ⟨"hero-028", "Wise Shield", "base", .hero .guardian 6⟩,
  ⟨"hero-029", "Vibrant Glow", "base", .hero .guardian 9⟩,
  ⟨"hero-030", "Iron Resolve", "base", .hero .guardian 8⟩,
  ⟨"hero-031", "Mighty Blade", "base", .hero .guardian 8⟩,
  ⟨"hero-032", "Calming Voice", "base", .hero .guardian 9⟩,
  ⟨"hero-033", "Hopper", "base", .hero .wizard 7⟩,
  ⟨"hero-034", "Buttons", "base", .hero .wizard 6⟩,
  ⟨"hero-035", "Spooky", "base", .hero .wizard 10⟩,
  ⟨"hero-036", "Wiggles", "base", .hero .wizard 10⟩,
  ⟨"hero-037", "Whiskers", "base", .hero .wizard 11⟩,
  ⟨"hero-038", "Fluffy", "base", .hero .wizard 10⟩,
  ⟨"hero-039", "Bun Bun", "base", .hero .wizard 5⟩,
  ⟨"hero-040", "Snowball", "base", .hero .wizard 6⟩,
  ⟨"hero-041", "Mellow Dee", "base", .hero .bard 7⟩,
  ⟨"hero-042", "Lucky Bucky", "base", .hero .bard 7⟩,
  ⟨"hero-043", "Fuzzy Cheeks", "base", .hero .bard 8⟩,
  ⟨"hero-044", "Napping Nibbles", "base", .hero .bard 2⟩,
  ⟨"hero-045", "Tipsy Tootie", "base", .hero .bard 6⟩,
  ⟨"hero-046", "Dodgy Dealer", "base", .hero .bard 9⟩,
  ⟨"hero-047", "Greedy Cheeks", "base", .hero .bard 8⟩,
  ⟨"hero-048", "Peanut", "base", .hero .bard 7⟩]

/-- `baseMonsters`. -/
def baseMonsters : List Card := [
  ⟨"monster-122", "Corrupted Sabretooth", "base", .monster ⟨6, 9, .highToWin, [.any, .any, .any]⟩⟩,
  ⟨"monster-123", "Mega Slime", "base", .monster ⟨7, 8, .highToWin, [.any, .any, .any, .any]⟩⟩,
  ⟨"monster-124", "Anuran Cauldron", "base", .monster ⟨6, 7, .highToWin, [.any, .any, .any]⟩⟩,
  ⟨"monster-125", "Crowned Serpent", "base", .monster ⟨7, 10, .highToWin, [.any, .any]⟩⟩,
  ⟨"monster-126", "Dracos", "base", .monster ⟨8, 5, .highToWin, [.any]⟩⟩,
  ⟨"monster-127", "Bloodwing", "base", .monster ⟨6, 9, .highToWin, [.any, .any]⟩⟩,
  ⟨"monster-128", "Arctic Aries", "base", .monster ⟨6, 10, .highToWin, [.any]⟩⟩,
  ⟨"monster-129", "Abyss Queen", "base", .monster ⟨5, 8, .highToWin, [.any, .any]⟩⟩,
  ⟨"monster-130", "Terratuga", "base", .monster ⟨7, 11, .highToWin, [.any]⟩⟩,
  ⟨"monster-131", "Orthus", "base", .monster ⟨4, 8, .highToWin, [.named .wizard, .any]⟩⟩,
  ⟨"monster-132", "Rex Major", "base", .monster ⟨4, 8, .highToWin, [.named .guardian, .any]⟩⟩,
  ⟨"monster-133", "Dark Dragon King", "base", .monster ⟨4, 8, .highToWin, [.named .bard, .any]⟩⟩,
  ⟨"monster-134", "Malamammoth", "base", .monster ⟨4, 8, .highToWin, [.named .ranger, .any]⟩⟩,
  ⟨"monster-135", "Warworn Owlbear", "base", .monster ⟨4, 8, .highToWin, [.named .thief, .any]⟩⟩,
  ⟨"monster-136", "Titan Wyvern", "base", .monster ⟨4, 8, .highToWin, [.named .thief, .any]⟩⟩]

/-- `baseItems`. -/
def baseItems : List Card := [
  ⟨"item-062", "Particularly Rusty Coin", "base", .item false none⟩,
  ⟨"item-063", "Particularly Rusty Coin", "base", .item false none⟩,
  ⟨"item-064", "Really Big Ring", "base", .item false none⟩,
  ⟨"item-065", "Really Big Ring", "base", .item false none⟩,
  ⟨"item-066", "Decoy Doll", "base", .item false none⟩,
  ⟨"item-067", "Fighter Mask", "base", .item false (some .fighter)⟩,
  ⟨"item-068", "Ranger Mask", "base", .item false (some .ranger)⟩,
  ⟨"item-069", "Thief Mask", "base", .item false (some .thief)⟩,
  ⟨"item-070", "Guardian Mask", "base", .item false (some .guardian)⟩,
  ⟨"item-071", "Wizard Mask", "base", .item false (some .wizard)⟩,
  ⟨"item-072", "Bard Mask", "base", .item false (some .bard)⟩,
  ⟨"item-073", "Suspiciously Shiny Coin", "base", .item true none⟩,
  ⟨"item-074", "Curse of the Snake's Eyes", "base", .item true none⟩,
  ⟨"item-075", "Curse of the Snake's Eyes", "base", .item true none⟩,
  ⟨"item-076", "Sealing Key", "base", .item true none⟩]

/-- `baseMagic`. -/
def baseMagic : List Card := [
  ⟨"magic-049", "Destructive Spell", "base", .magic⟩,
  ⟨"magic-050", "Destructive Spell", "base", .magic⟩,
  ⟨"magic-051", "Entangling Trap", "base", .magic⟩,
  ⟨"magic-052", "Entangling Trap", "base", .magic⟩,
  ⟨"magic-053", "Critical Boost", "base", .magic⟩,
  ⟨"magic-054", "Critical Boost", "base", .magic⟩,
  ⟨"magic-055", "Enchanted Spell", "base", .magic⟩,
  ⟨"magic-056", "Enchanted Spell", "base", .magic⟩,
  ⟨"magic-057", "Forced Exchange", "base", .magic⟩,
  ⟨"magic-058", "Winds of Change", "base", .magic⟩,
  ⟨"magic-059", "Winds of Change", "base", .magic⟩,
  ⟨"magic-060", "Forceful Winds", "base", .magic⟩,
  ⟨"magic-061", "Call to the Fallen", "base", .magic⟩]

/-- `baseModifiers`. -/
def baseModifiers : List Card := [
  ⟨"modifier-077", "Modifier", "base", .modifier [2, -2]⟩,
  ⟨"modifier-078", "Modifier", "base", .modifier [2, -2]⟩,
  ⟨"modifier-079", "Modifier", "base", .modifier [2, -2]⟩,
  ⟨"modifier-080", "Modifier", "base", .modifier [2, -2]⟩,
  ⟨"modifier-081", "Modifier", "base", .modifier [2, -2]⟩,
  ⟨"modifier-082", "Modifier", "base", .modifier [2, -2]⟩,
  ⟨"modifier-083", "Modifier", "base", .modifier [2, -2]⟩,
  ⟨"modifier-084", "Modifier", "base", .modifier [2, -2]⟩,
  ⟨"modifier-085", "Modifier", "base", .modifier [2, -2]⟩,
  ⟨"modifier-086", "Modifier", "base", .modifier [3, -1]⟩,
  ⟨"modifier-087", "Modifier", "base", .modifier [3, -1]⟩,
  ⟨"modifier-088", "Modifier", "base", .modifier [3, -1]⟩,
  ⟨"modifier-089", "Modifier", "base", .modifier [3, -1]⟩,
  ⟨"modifier-090", "Modifier", "base", .modifier [1, -3]⟩,
  ⟨"modifier-091", "Modifier", "base", .modifier [1, -3]⟩,
  ⟨"modifier-092", "Modifier", "base", .modifier [1, -3]⟩,
  ⟨"modifier-093", "Modifier", "base", .modifier [1, -3]⟩,
  ⟨"modifier-094", "Modifier", "base", .modifier [4]⟩,
  ⟨"modifier-095", "Modifier", "base", .modifier [4]⟩,
  ⟨"modifier-096", "Modifier", "base", .modifier [4]⟩,
  ⟨"modifier-097", "Modifier", "base", .modifier [4]⟩,
  ⟨"modifier-098", "Modifier", "base", .modifier [-4]⟩,
  ⟨"modifier-099", "Modifier", "base", .modifier [-4]⟩,
  ⟨"modifier-100", "Modifier", "base", .modifier [-4]⟩,
  ⟨"modifier-101", "Modifier", "base", .modifier [-4]⟩]

/-- `baseChallenges`. -/
def baseChallenges : List Card := [
  ⟨"challenge-102", "Challenge", "base", .challenge⟩,
  ⟨"challenge-103", "Challenge", "base", .challenge⟩,
  ⟨"challenge-104", "Challenge", "base", .challenge⟩,
  ⟨"challenge-105", "Challenge", "base", .challenge⟩,
  ⟨"challenge-106", "Challenge", "base", .challenge⟩,
  ⟨"challenge-107", "Challenge", "base", .challenge⟩,
  ⟨"challenge-108", "Challenge", "base", .challenge⟩,
  ⟨"challenge-109", "Challenge", "base", .challenge⟩,
  ⟨"challenge-110", "Challenge", "base", .challenge⟩,
  ⟨"challenge-111", "Challenge", "base", .challenge⟩,
  ⟨"challenge-112", "Challenge", "base", .challenge⟩,
  ⟨"challenge-113", "Challenge", "base", .challenge⟩,
  ⟨"challenge-114", "Challenge", "base", .challenge⟩,
  ⟨"challenge-115", "Challenge", "base", .challenge⟩]

/-- `baseLeaders`. -/
def baseLeaders : List Card := [
  ⟨"leader-116", "The Divine Arrow", "base", .leader .ranger⟩,
  ⟨"leader-117", "The Shadow Claw", "base", .leader .thief⟩,
  ⟨"leader-118", "The Fist of Reason", "base", .leader .fighter⟩,
  ⟨"leader-119", "The Charismatic Song", "base", .leader .bard⟩,
  ⟨"leader-120", "The Cloaked Sage", "base", .leader .wizard⟩,
  ⟨"leader-121", "The Protecting Horn", "base", .leader .guardian⟩]

/-- `baseGameCards`. -/
def baseGameCards : List Card :=
  baseHeroes ++ baseMonsters ++ baseItems ++ baseMagic ++ baseModifiers ++
  baseChallenges ++ baseLeaders

/-- Every printed card is programmed, and once; all of them are of the base set. -/
theorem baseGameCards_programmed : (baseGameCards.map Card.id).Nodup ∧
    (abilityRegistry.map Prod.fst).Perm (baseGameCards.map Card.id) ∧
    ∀ card ∈ baseGameCards, card.set = "base" := by
  decide +kernel

end HereToSlaughter
