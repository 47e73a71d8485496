/-
  TreeSift.Text.CharacterWord — words that names of characters begin with.

  Not all names of characters are listed (`named?`). A text that is not listed is no name at
  all if the names of no characters (Unicode 14.0) begin with its first word, or if there is
  a character in it that no name has.

    §1 Words  `firstWords`
    §2 Names  `mayBeNamed`
-/
import TreeSift.Text.CharacterName
import TreeSift.Text.Pieces

namespace TreeSift.Text

/-! ## §1 Words -/

/-- The first words of all names, other names of characters included, in alphabetical order. -/
def firstWords : List String := [
  "ABACUS AC ACCORDION ACCOUNT ACK ACKNOWLEDGE ACTIVATE ACUTE ADDRESSED ADHESIVE ADI ADLAM",
  "ADMETOS ADMISSION ADULT AEGEAN AERIAL AFGHANI AHOM AIRPLANE AKTIESELSKAB ALARM ALCHEMICAL",
  "ALEF ALEMBIC ALERT ALIEN ALL ALM ALMOST ALTERNATE ALTERNATIVE AMALGAMATION AMBULANCE",
  "AMERICAN AMPERSAND AMPHORA ANATOLIAN ANATOMICAL ANCHOR AND ANGER ANGLE ANGRY ANGSTROM",
  "ANGUISHED ANKH ANT ANTENNA ANTICLOCKWISE APC APL APOLLON APOSTROPHE APPLICATION APPROACHES",
  "APPROXIMATELY AQUARIUS ARABIC ARABIC-INDIC ARC ARIES ARMENIAN ARROW ARROWHEAD-SHAPED",
  "ARTICULATED ARTIST ASCENDING ASCIA ASSERTION ASTERISK ASTERISM ASTONISHED ASTRAEA",
  "ASTRONOMICAL ASYMPTOTICALLY ATHLETIC ATOM AUBERGINE AUSTRAL AUTO AUTOMATED AUTOMOBILE",
  "AVESTAN AVOCADO AXE BABY BACK BACK-TILTED BACKSLANTED BACKSPACE BACON BACTRIAN BADGER",
  "BADMINTON BAGEL BAGGAGE BAGUETTE BALINESE BALL BALLET BALLOON BALLOON-SPOKED BALLOT BAMUM",
  "BANANA BANJO BANK BANKNOTE BAR BARBER BASEBALL BASKET BASKETBALL BASSA BAT BATAK BATH",
  "BATHTUB BATTERY BEACH BEAMED BEANS BEAR BEARDED BEATING BEAVER BECAUSE BED BEER BEETLE BEL",
  "BELL BELLHOP BENGALI BENT BENTO BENZENE BET BETWEEN BEVERAGE BHAIKSUKI BICYCLE BICYCLIST BIG",
  "BIKINI BILLED BILLIARDS BIOHAZARD BIRD BIRTHDAY BISON BITCOIN BITING BLACK BLACK-FEATHERED",
  "BLACK-LETTER BLANK BLOCK BLOSSOM BLOWFISH BLUE BLUEBERRIES BOAR BOLD BOM BOMB BONE BOOK",
  "BOOKMARK BOOKS BOOMERANG BOPOMOFO BOTTLE BOTTOM BOUQUET BOW BOWL BOWLING BOWTIE BOX BOXING",
  "BOY BOYS BPH BRAHMI BRAILLE BRAIN BREAD BREAK BREAST-FEEDING BREVE BRICK BRIDE BRIDGE",
  "BRIEFCASE BRIEFS BROCCOLI BROKEN BROOM BROWN BS BUBBLE BUBBLES BUCKET BUG BUGINESE BUHID",
  "BUILDING BULLET BULLHORN BULLSEYE BURRITO BUS BUST BUSTS BUTTER BUTTERFLY BYTE BYZANTINE",
  "CACTUS CADA CADUCEUS CALENDAR CALL CAMERA CAMPING CAN CANADIAN CANCEL CANCELLATION CANCER",
  "CANDLE CANDY CANNED CANOE CAPITULUM CAPRICORN CAR CARD CARE CARET CARIAN CARON CAROUSEL CARP",
  "CARPENTRY CARRIAGE CARROT CASTLE CAT CAUCASIAN CAUTION CCH CEDI CEDILLA CELTIC CENT CENTRE",
  "CENTRELINE CERES CGJ CHAINS CHAIR CHAKMA CHAM CHARACTER CHART CHECK CHECKER CHEERING CHEESE",
  "CHEQUERED CHEROKEE CHERRIES CHERRY CHESTNUT CHI CHICKEN CHILD CHILDREN CHIPMUNK CHIRON",
  "CHOCOLATE CHOPSTICKS CHORASMIAN CHRISTMAS CHURCH CINEMA CIRCLE CIRCLED CIRCULATION",
  "CIRCUMFLEX CIRCUS CITYSCAPE CJK CLAMSHELL CLAPPER CLAPPING CLASSICAL CLEAR CLINKING",
  "CLIPBOARD CLOCK CLOCKWISE CLOSE CLOSED CLOUD CLOWN COAT COCKROACH COCKTAIL COCONUT COFFIN",
  "COIN COLLISION COLON COMBINING COMET COMMA COMMERCIAL COMPASS COMPLEMENT COMPOSITION",
  "COMPRESSION CONFETTI CONFOUNDED CONFUSED CONGRUENT CONICAL CONJUNCTION CONSTRUCTION CONTAINS",
  "CONTINUOUS CONTOUR CONTROL CONVENIENCE COOKED COOKIE COOKING COPTIC COPYLEFT COPYRIGHT CORAL",
  "CORNISH CORRESPONDS COUCH COUNTERBORE COUNTERSINK COUNTING COUPLE COW CR CRAB CREDIT",
  "CRESCENT CRICKET CROCODILE CROISSANT CROSS CROSSED CROSSING CROWN CRUTCH CRUZEIRO CRYING",
  "CRYSTAL CSI CUBE CUCUMBER CUNEIFORM CUP CUPCAKE CUPIDO CURLING CURLY CURRENCY CURRY CURVED",
  "CUSTARD CUSTOMS CUT CYCLONE CYLINDRICITY CYPRIOT CYPRO-MINOAN CYRILLIC DAGGER DALET DANCER",
  "DANGO DARK DASH DASHED DATA DC1 DC2 DC3 DC4 DCS DEAF DECIDUOUS DECIMAL DECREASE DEER DEGREE",
  "DEL DELETE DELIVERY DELTA DENTISTRY DEPARTMENT DERELICT DESCENDING DESERET DESERT DESKTOP",
  "DEVANAGARI DEVICE DIAERESIS DIAMETER DIAMOND DIE DIESEL DIFFERENCE DIGIT DIGRAM DIMENSION",
  "DINGBAT DIRECT DISABLED DISAPPOINTED DISCONTINUOUS DISGUISED DITTO DIVES DIVIDES DIVING",
  "DIVISION DIVORCE DIYA DIZZY DLE DNA DO DOCUMENT DODO DOES DOG DOGRA DOLLAR DOLPHIN DOMINO",
  "DONG DOOR DOT DOTTED DOUBLE DOUBLE-ENDED DOUBLE-LINE DOUBLE-STRUCK DOUBLED DOUGHNUT DOVE",
  "DOWN DOWN-POINTING DOWNWARD DOWNWARDS DRACHMA DRAFTING DRAGON DRESS DRIVE DROMEDARY DROOLING",
  "DROP DROPLET DRUM DUCK DUMPLING DUPLOYAN DVD E-MAIL EAGLE EAR EARTH EAST EDITORIAL EGG",
  "EGYPTIAN EIGHT EIGHTH EJECT ELBASAN ELECTRIC ELECTRICAL ELEMENT ELEPHANT ELEVATOR ELF",
  "ELYMAIC EM EMOJI EMPHASIS EMPTY EN END ENQ ENQUIRY ENTER ENVELOPE EOL EOM EOT EPA EQUAL",
  "EQUALS EQUIANGULAR EQUIVALENT ERASE ERIS ERROR-BARRED ESA ESC ESCAPE ESTIMATED ESTIMATES ETB",
  "ETHIOPIC ETX EULER EURO EURO-CURRENCY EUROPEAN EVERGREEN EXCESS EXCLAMATION EXPRESSIONLESS",
  "EXTENDED EXTRATERRESTRIAL EXTREMELY EYE EYEGLASSES EYES FACE FACSIMILE FACTORY FAIRY FALAFEL",
  "FALLEN FALLING FAMILY FARSI FATHER FAX FEARFUL FEATHER FEMALE FEMININE FENCER FERRIS FERRY",
  "FF FIELD FIGURE FILE FILM FINITE FIRE FIRECRACKER FIREWORK FIREWORKS FIRST FISH FISHEYE",
  "FISHING FISTED FIVE FLAG FLAMINGO FLAT FLATBREAD FLATNESS FLEUR-DE-LIS FLEXED FLOPPY FLORAL",
  "FLOWER FLUSHED FLY FLYING FOG FOGGY FOLDER FONDUE FOOT FOOTPRINTS FOR FORCES FORK FORKED",
  "FORKING FORM FORTUNE FOUNTAIN FOUR FOUR-PER-EM FOURTH FOX FRACTION FRAME FREEZING FRENCH",
  "FRIED FROG FRONT-FACING FRONT-TILTED FROWN FROWNING FS FSI FUEL FULL FULLWIDTH FUNCTION",
  "FUNERAL FUSE FVS1 FVS2 FVS3 FVS4 GAME GARLIC GEAR GEM GEMINI GENIE GEOMETRIC GEOMETRICALLY",
  "GEORGIAN GERMAN GETA GHOST GIMEL GIRAFFE GIRL GIRLS GLAGOLITIC GLASS GLEICH GLOBE GLOVES",
  "GLOWING GOAL GOAT GOGGLES GOLFER GORILLA GOTHIC GRADUATION GRANTHA GRAPES GRAVE GREATER-THAN",
  "GREEK GREEN GRIMACING GRINNING GROUP GROWING GS GUARANI GUARDSMAN GUIDE GUITAR GUJARATI",
  "GUNJALA GURMUKHI HADES HAIR HAIRCUT HALFWIDTH HAMBURGER HAMMER HAMSA HAMSTER HAND HANDBAG",
  "HANDBALL HANDSHAKE HANGUL HANGZHOU HANIFI HANUNOO HAPPY HARD HATCHING HATRAN HEADPHONE",
  "HEADSTONE HEAR-NO-EVIL HEART HEAVY HEBREW HEDGEHOG HELICOPTER HELLSCHREIBER HELM HELMET",
  "HENTAIGANA HERB HERMITIAN HEXAGRAM HIBISCUS HIGH HIGH-HEELED HIGH-SPEED HIKING HINDU",
  "HIPPOPOTAMUS HIRAGANA HISTORIC HOCHO HOLE HOLLOW HOMOTHETIC HONEY HONEYBEE HOOK HOP",
  "HORIZONTAL HORSE HOSPITAL HOT HOTEL HOURGLASS HOUSE HRYVNIA HT HTJ HTS HUGGING HUNDRED",
  "HUSHED HUT HYGIEA HYPHEN HYPHEN-MINUS HYPHENATION HYPODIASTOLE HYSTERESIS I ICE IDENTICAL",
  "IDENTIFICATION IDEOGRAPHIC IMAGE IMP IMPERIAL INBOX INCOMING INCOMPLETE INCREASE INCREASES",
  "INCREMENT IND INDEX INDIAN INDIC INFINITY INFORMATION INHIBIT INPUT INSCRIPTIONAL INSERTION",
  "INTEGRAL INTERCALATE INTERIOR INTERLINEAR INTERLOCKED INTERROBANG INTERSECTION INVERSE",
  "INVERTED INVISIBLE IZAKAYA JACK-O-LANTERN JAPANESE JAR JAVANESE JEANS JIGSAW JOIN JOYSTICK",
  "JUGGLING JUNO JUPITER KAABA KAITHI KANGAROO KANGXI KANNADA KATAKANA KATAKANA-HIRAGANA KAYAH",
  "KELVIN KEY KEYBOARD KEYCAP KHAROSHTHI KHITAN KHMER KHOJKI KHUDAWADI KIMONO KIP KISS KISSING",
  "KITE KIWIFRUIT KNEELING KNOT KOALA KOREAN KRONOS L LAB LABEL LACROSSE LADDER LADY LANGUAGE",
  "LAO LARGE LARGER LARI LAST LATIN LEAF LEAFY LEDGER LEFT LEFT-FACING LEFT-HANDED",
  "LEFT-POINTING LEFT-SHADED LEFT-SIDE LEFT-TO-RIGHT LEFTWARDS LEG LEMON LEO LEOPARD LEPCHA",
  "LESS-THAN LEVEL LF LIBRA LIGATURE LIGHT LIGHTNING LIMBU LIMITED LINE LINEAR LINK LINKED LION",
  "LIPS LIPSTICK LIRA LISU LIVRE LIZARD LLAMA LOBSTER LOCK LOCKING-SHIFT LOGICAL LOLLIPOP LONG",
  "LOTION LOTUS LOUDLY LOVE LOW LOWER LOZENGE LRE LRI LRM LRO LUGGAGE LUNGS LYCIAN LYDIAN LYING",
  "MACRON MAGE MAGIC MAGNET MAHAJANI MAHJONG MAKASAR MALAYALAM MALE MALTESE MAMMOTH MAN MANAT",
  "MANDAIC MANGO MANICHAEAN MANS MANTELPIECE MANUAL MAP MAPLE MARCHEN MARRIAGE MARTIAL MASARAM",
  "MASCULINE MASK MASU MATE MATHEMATICAL MAXIMIZE MAYAN MEASURED MEAT MECHANICAL MEDEFAIDRIN",
  "MEDIEVAL MEDIUM MEETEI MELON MELTING MEMO MENDE MENORAH MENS MERCURY MEROITIC MERPERSON",
  "MESSAGE METRICAL METRO MIAO MICR MICRO MICROBE MICROPHONE MICROSCOPE MIDDLE MIDLINE MILITARY",
  "MILKY MILL MINIBUS MINIDISC MINIMIZE MINUS MINUS-OR-PLUS MINY MIRROR MMSP MOBILE MODELS",
  "MODERN MODI MODIFIER MODULO MONEY MONEY-MOUTH MONGOLIAN MONKEY MONOGRAM MONORAIL MONOSTABLE",
  "MOOD MOON MOSQUE MOSQUITO MOTHER MOTOR MOTORIZED MOTORWAY MOUNT MOUNTAIN MOUSE MOUTH MOVIE",
  "MOYAI MRO MUCH MULTANI MULTIMAP MULTIPLE MULTIPLICATION MULTISET MUSHROOM MUSIC MUSICAL MVS",
  "MW MYANMAR N-ARY NABATAEAN NABLA NAIL NAIRA NAK NAME NAND NANDINAGARI NARROW NATIONAL",
  "NAUSEATED NAZAR NBH NBSP NECKTIE NEGATED NEGATIVE NEITHER NEL NEPTUNE NERD NESSUS NEST",
  "NESTING NEUTER NEUTRAL NEW NEWA NEWLINE NEWSPAPER NEXT NIGHT NINJA NKO NL NNBSP NO NO-BREAK",
  "NOMINAL NOMISMA NON-BREAKING NON-POTABLE NONFORKING NOR NORDIC NORMAL NORTH",
  "NORTHEAST-POINTING NOSE NOT NOTCHED NOTE NOTEBOOK NUL NULL NUMBER NUMERO NUSHU NUT NYIAKENG",
  "OBJECT OBLIQUE OBSERVER OCR OCTAGONAL OCTOPUS ODEN OFFICE OGHAM OGONEK OHM OIL OK OL OLD",
  "OLDER OLIVE OM ON ONCOMING ONE ONE-PIECE ONION OPEN OPEN-CIRCUIT-OUTPUT OPEN-OUTLINED",
  "OPERATING OPHIUCHUS OPPOSITION OPTICAL OPTION OR ORANGE ORANGUTAN ORIGINAL ORIYA ORNATE",
  "ORTHODOX OSAGE OSC OSMANYA OTTER OTTOMAN OUNCE OUTBOX OUTLINED OVERHEATED OVERLAP",
  "OVERLAPPING OVERLINE OWL OX OYSTER PACKAGE PAD PADDING PAGE PAGER PAGES PAGODA PAHAWH PALLAS",
  "PALM PALMS PALMYRENE PANCAKES PANDA PAPERCLIP PARACHUTE PARAGRAPH PARAGRAPHOS PARAGRAPHUS",
  "PARALLEL PARENTHESIZED PARROT PART PARTIAL PARTIALLY-RECYCLED PARTNERSHIP PARTY PASSED",
  "PASSENGER PASSIVE-PULL-DOWN-OUTPUT PASSIVE-PULL-UP-OUTPUT PASSPORT PAU PAW PDF PDI PEACE",
  "PEACH PEACOCK PEANUTS PEAR PEDESTRIAN PEN PENCIL PENGUIN PENSIVE PENTAGRAM PEOPLE PER",
  "PERCENT PERFORMING PERMANENT PERPENDICULAR PERSEVERING PERSON PERSONAL PERSPECTIVE PESETA",
  "PESO PETRI PHAGS-PA PHAISTOS PHILIPPINE PHOENICIAN PHOLUS PICK PICKUP PIE PIG PILCROW PILE",
  "PILL PINATA PINCHED PINCHING PINE PINEAPPLE PINWHEEL PISCES PISTOL PITCHFORK PLACARD PLACE",
  "PLANCK PLAYGROUND PLAYING PLD PLU PLUNGER PLUS PLUS-MINUS PLUTO PM POCKET POLICE POODLE POP",
  "POPCORN PORTABLE POSEIDON POSITION POSTAL POSTBOX POT POTABLE POTATO POTTED POUCH POULTRY",
  "POUND POURING POUTING POWER PRAYER PRECEDES PREGNANT PRESCRIPTION PRESENTATION PRETZEL",
  "PREVIOUS PRIME PRINCE PRINCESS PRINT PRINTER PRIVACY PRIVATE PROBING PROHIBITED PROJECTIVE",
  "PROPERTY PROPORTION PROPORTIONAL PROSERPINA PSALTER PU1 PU2 PUBLIC PUNCTUATION PUNCTUS",
  "PURPLE PURSE PUSHPIN PUT QUADRANT QUADRUPLE QUARTER QUATERNION QUESTION QUESTIONED QUINCUNX",
  "QUOTATION RABBIT RACCOON RACING RADICAL RADIO RADIOACTIVE RAILWAY RAIN RAINBOW RAISED RAM",
  "RAT RATIO RAZOR RECEIPT RECORD RECREATIONAL RECYCLED RECYCLING RED REFERENCE REGIONAL",
  "REGISTERED REJANG RELIEVED REMINDER REPLACEMENT RESPONSE RESTRICTED RESTROOM RETURN REVERSE",
  "REVERSED REVOLVING RHINOCEROS RI RIAL RIBBON RICE RIFLE RIGHT RIGHT-FACING RIGHT-HANDED",
  "RIGHT-POINTING RIGHT-SHADED RIGHT-SIDE RIGHT-TO-LEFT RIGHTHAND RIGHTWARDS RING RINGED",
  "RINGING RISING RLE RLI RLM RLO ROASTED ROBOT ROCK ROCKET ROLL ROLLED-UP ROLLER ROLLING ROMAN",
  "ROOSTER ROSE ROSETTE ROTATED ROUND ROUNDED ROWBOAT RS RUBLE RUGBY RULE-DELAYED RUMI RUNIC",
  "RUNNER RUNNING RUPEE RUSSIAN S SAFETY SAGITTARIUS SAILBOAT SAKE SALT SALTIRE SALUTING",
  "SAMARITAN SANDWICH SANS-SERIF SARI SATELLITE SATURN SAURASHTRA SAUROPOD SAXOPHONE SCALES",
  "SCARF SCHOOL SCI SCOOTER SCORPION SCORPIUS SCREEN SCREWDRIVER SCRIPT SCROLL SCRUPLE SEAL",
  "SEAT SECOND SECTION SECTOR SEDNA SEE-NO-EVIL SEEDLING SEGMENT SEGMENTED SELFIE SEMICOLON",
  "SEMIDIRECT SEMISEXTILE SEPARATED SERIOUS SERVICE SESAME SESQUIQUADRATE SET SEWING SEXTILE",
  "SGC SHADOWED SHALLOW SHAMROCK SHARADA SHARK SHAVED SHAVIAN SHEEP SHIELD SHIFT SHINTO SHIP",
  "SHOCKED SHOOTING SHOPPING SHORT SHORTCAKE SHORTHAND SHORTS SHOULDERED SHOWER SHRIMP SHRUG",
  "SHUFFLE SHY SI SIDDHAM SIDEWAYS SIGN SIGNWRITING SILHOUETTE SIMILAR SINE SINGLE",
  "SINGLE-SHIFT-2 SINGLE-SHIFT-3 SINHALA SIX SIX-PER-EM SIXTEEN SKATEBOARD SKI SKIER SKULL",
  "SKUNK SLANTED SLAVONIC SLED SLEEPING SLEEPY SLEUTH SLICE SLIGHTLY SLOPE SLOPING SLOT SLOTH",
  "SMALL SMALLER SMASH SMILE SMILING SMIRKING SMOKING SNAIL SNAKE SNEEZING SNOW SNOWBOARDER",
  "SNOWFLAKE SNOWMAN SO SOCCER SOCKS SOFT SOFTBALL SOFTWARE-FUNCTION SOGDIAN SOH SOLID SOLIDUS",
  "SOM SOON SORA SOS SOUND SOUTH SOYOMBO SP SPA SPACE SPAGHETTI SPARKLE SPARKLES SPARKLING",
  "SPEAK-NO-EVIL SPEAKER SPEAKING SPEECH SPEEDBOAT SPESMILO SPHERICAL SPIDER SPIRAL SPLASHING",
  "SPONGE SPOOL SPOON SPORTS SPOUTING SQUARE SQUARED SQUAT SQUID SS2 SS3 SSA ST STADIUM STAFF",
  "STAMPED STANDING STAR START STATION STATUE STEAM STEAMING STENOGRAPHIC STETHOSCOPE STICK",
  "STOCK STOPWATCH STRAIGHT STRAIGHTNESS STRAWBERRY STRESS STRICTLY STRING STS STUDIO STUFFED",
  "STUPA STX SUB SUBSCRIPT SUBSET SUBSTITUTE SUCCEEDS SUMMATION SUN SUNDANESE SUNFLOWER SUNRISE",
  "SUNSET SUPERHERO SUPERSCRIPT SUPERSET SUPERVILLAIN SURFACE SURFER SUSHI SUSPENSION SWAN",
  "SWASH SWIMMER SWUNG SYLOTI SYMBOL SYMMETRY SYN SYNAGOGUE SYNCHRONOUS SYRIAC SYRINGE T-REX",
  "T-SHIRT TAB TABLE TACO TAG TAGALOG TAGBANWA TAI TAKEOUT TAKRI TALLY TAMALE TAMIL TANABATA",
  "TANGERINE TANGSA TANGUT TAPE TAURUS TAXI TEACUP TEAPOT TEAR-OFF TEARDROP-BARBED",
  "TEARDROP-SPOKED TEDDY TELEPHONE TELESCOPE TELEVISION TELUGU TENGE TENNIS TENT TEST TETRAGRAM",
  "THAANA THAI THERE THEREFORE THERMODYNAMIC THERMOMETER THIN THINKING THIRD THONG THOUGHT",
  "THREE THREE-D THREE-EM THREE-PER-EM THUMBS THUNDER THUNDERSTORM TIBETAN TICKET TIE TIFINAGH",
  "TIGER TIGHT TILDE TIMER TIMES TINY TIRED TIRHUTA TIRONIAN TOILET TOKYO TOMATO TONGUE TOOLBOX",
  "TOOTH TOOTHBRUSH TOP TORTOISE TOTAL TOTO TRACKBALL TRACTOR TRADE TRAIN TRAM TRANSPLUTO",
  "TRANSVERSAL TRIANGLE TRIANGLE-HEADED TRIANGULAR TRICOLON TRIDENT TRIGRAM TRIPLE TROLL",
  "TROLLEYBUS TROPHY TROPICAL TRUE TRUMPET TUGRIK TULIP TUMBLER TURKEY TURKISH TURNED TURTLE",
  "TWELVE TWISTED TWO TWO-EM UGARITIC UMBRELLA UNAMUSED UNCERTAINTY UNDERTIE UNDO UNICORN UNION",
  "UNIT UNITED UNIVERSAL UNMARRIED UP UP-POINTING UPPER UPSIDE-DOWN UPWARDS URANUS US VAI",
  "VAMPIRE VARIATION VECTOR VEDIC VERSICLE VERTICAL VERY VESTA VIBRATION VICTORY VIDEO",
  "VIDEOCASSETTE VIETNAMESE VIEWDATA VIOLIN VIRGO VITHKUQI VOIDED VOLCANO VOLLEYBALL VOLUME VS1",
  "VS10 VS100 VS101 VS102 VS103 VS104 VS105 VS106 VS107 VS108 VS109 VS11 VS110 VS111 VS112",
  "VS113 VS114 VS115 VS116 VS117 VS118 VS119 VS12 VS120 VS121 VS122 VS123 VS124 VS125 VS126",
  "VS127 VS128 VS129 VS13 VS130 VS131 VS132 VS133 VS134 VS135 VS136 VS137 VS138 VS139 VS14",
  "VS140 VS141 VS142 VS143 VS144 VS145 VS146 VS147 VS148 VS149 VS15 VS150 VS151 VS152 VS153",
  "VS154 VS155 VS156 VS157 VS158 VS159 VS16 VS160 VS161 VS162 VS163 VS164 VS165 VS166 VS167",
  "VS168 VS169 VS17 VS170 VS171 VS172 VS173 VS174 VS175 VS176 VS177 VS178 VS179 VS18 VS180",
  "VS181 VS182 VS183 VS184 VS185 VS186 VS187 VS188 VS189 VS19 VS190 VS191 VS192 VS193 VS194",
  "VS195 VS196 VS197 VS198 VS199 VS2 VS20 VS200 VS201 VS202 VS203 VS204 VS205 VS206 VS207 VS208",
  "VS209 VS21 VS210 VS211 VS212 VS213 VS214 VS215 VS216 VS217 VS218 VS219 VS22 VS220 VS221",
  "VS222 VS223 VS224 VS225 VS226 VS227 VS228 VS229 VS23 VS230 VS231 VS232 VS233 VS234 VS235",
  "VS236 VS237 VS238 VS239 VS24 VS240 VS241 VS242 VS243 VS244 VS245 VS246 VS247 VS248 VS249",
  "VS25 VS250 VS251 VS252 VS253 VS254 VS255 VS256 VS26 VS27 VS28 VS29 VS3 VS30 VS31 VS32 VS33",
  "VS34 VS35 VS36 VS37 VS38 VS39 VS4 VS40 VS41 VS42 VS43 VS44 VS45 VS46 VS47 VS48 VS49 VS5 VS50",
  "VS51 VS52 VS53 VS54 VS55 VS56 VS57 VS58 VS59 VS6 VS60 VS61 VS62 VS63 VS64 VS65 VS66 VS67",
  "VS68 VS69 VS7 VS70 VS71 VS72 VS73 VS74 VS75 VS76 VS77 VS78 VS79 VS8 VS80 VS81 VS82 VS83 VS84",
  "VS85 VS86 VS87 VS88 VS89 VS9 VS90 VS91 VS92 VS93 VS94 VS95 VS96 VS97 VS98 VS99 VT VTS",
  "VULCANUS VULGAR WAFFLE WANCHO WANING WARANG WARNING WASTEBASKET WATCH WATER WATERMELON WAVE",
  "WAVING WAVY WAXING WEARY WEDDING WEDGE-TAILED WEIERSTRASS WEIGHT WEST WHALE WHEEL WHEELCHAIR",
  "WHITE WHITE-FEATHERED WIDE-HEADED WIGGLY WILTED WIND WINDOW WINE WINKING WIRED WJ WOLF WOMAN",
  "WOMANS WOMENS WON WOOD WORD WORLD WORM WORRIED WRAPPED WREATH WRENCH WRESTLERS WRITING X",
  "X-RAY XIANGQI XOR YAWNING YELLOW YEN YEZIDI YI YIN YO-YO Z ZANABAZAR ZEBRA ZERO ZEUS",
  "ZIPPER-MOUTH ZNAMENNY ZOMBIE ZWJ ZWNBSP ZWNJ ZWSP"]

/-! ## §2 Names -/

/-- Whether a text that is not listed may be the name of a character. -/
def mayBeNamed (name : String) : Bool :=
  let written := name.toUpper.toList
  let first := written.takeWhile (· ≠ ' ')
  name.toList.all (fun c => c.isAlphanum || c == ' ' || c == '-')
    && !ideographStart.toList.isPrefixOf written
    && firstWords.any fun line => (pieces ' ' line.toList).contains first

end TreeSift.Text
