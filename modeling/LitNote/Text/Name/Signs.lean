import LitNote.Text.Name.Run

/-!
Names of punctuation, arrows, operators and other signs.
-/

namespace LitNote.Text.Name

def signs : List Run :=
  [⟨0x2000, ["aEN QUADaEM QUADaEN SPACEaEM SPACEaTHREE-PER-EM SPACEaFOUR-PER-EM SPACE",
    "aSIX-PER-EM SPACEaFIGURE SPACEaPUNCTUATION SPACEaTHIN SPACEaHAIR SPACEaZERO WIDTH SPACE",
    "cNON-JOINERcJOINERaLEFT-TO-RIGHT MARKaRIGHT-TO-LEFT MARKaHYPHENaNON-BREAKING HYPHEN",
    "aFIGURE DASHaEN DASHaEM DASHaHORIZONTAL BARaDOUBLE VERTICAL LINEbLOW LINEaLEFT SINGLE ",
    "QUOTATION MARKaRIGHT SINGLE QUOTATION MARKaSINGLE LOW-9 QUOTATION MARKbHIGH-REVERSED-9 ",
    "QUOTATION MARKaLEFT DOUBLE QUOTATION MARKaRIGHT DOUBLE QUOTATION MARKaDOUBLE LOW-9 ",
    "QUOTATION MARKbHIGH-REVERSED-9 QUOTATION MARKaDAGGERaDOUBLE DAGGERaBULLETaTRIANGULAR ",
    "BULLETaONE DOT LEADERaTWO DOT LEADERaHORIZONTAL ELLIPSISaHYPHENATION POINTaLINE SEPARATOR",
    "aPARAGRAPH SEPARATORaLEFT-TO-RIGHT EMBEDDINGaRIGHT-TO-LEFT EMBEDDINGaPOP DIRECTIONAL ",
    "FORMATTINGaLEFT-TO-RIGHT OVERRIDEaRIGHT-TO-LEFT OVERRIDEaNARROW NO-BREAK SPACEaPER MILLE ",
    "SIGNbTEN THOUSAND SIGNaPRIMEaDOUBLE PRIMEaTRIPLE PRIMEaREVERSED PRIMEbDOUBLE PRIMEbTRIPLE ",
    "PRIMEaCARETaSINGLE LEFT-POINTING ANGLE QUOTATION MARKbRIGHT-POINTING ANGLE QUOTATION MARK",
    "aREFERENCE MARKaDOUBLE EXCLAMATION MARKaINTERROBANGaOVERLINEaUNDERTIEaCHARACTER TIEaCARET ",
    "INSERTION POINTaASTERISMaHYPHEN BULLETaFRACTION SLASHaLEFT SQUARE BRACKET WITH QUILL",
    "aRIGHT SQUARE BRACKET WITH QUILLaDOUBLE QUESTION MARKaQUESTION EXCLAMATION MARK",
    "aEXCLAMATION QUESTION MARKaTIRONIAN SIGN ETaREVERSED PILCROW SIGNaBLACK LEFTWARDS BULLET",
    "bRIGHTWARDS BULLETaLOW ASTERISKaREVERSED SEMICOLONaCLOSE UPaTWO ASTERISKS ALIGNED ",
    "VERTICALLYaCOMMERCIAL MINUS SIGNaSWUNG DASHaINVERTED UNDERTIEaFLOWER PUNCTUATION MARK",
    "aTHREE DOT PUNCTUATIONaQUADRUPLE PRIMEaFOUR DOT PUNCTUATIONaFIVE DOT PUNCTUATIONaTWO DOT ",
    "PUNCTUATIONaFOUR DOT MARKaDOTTED CROSSaTRICOLONaVERTICAL FOUR DOTSaMEDIUM MATHEMATICAL ",
    "SPACEaWORD JOINERaFUNCTION APPLICATIONaINVISIBLE TIMESbSEPARATORbPLUS"]⟩,
   ⟨0x2066, ["aLEFT-TO-RIGHT ISOLATEaRIGHT-TO-LEFT ISOLATEaFIRST STRONG ISOLATEaPOP ",
    "DIRECTIONAL ISOLATEaINHIBIT SYMMETRIC SWAPPINGaACTIVATE SYMMETRIC SWAPPINGaINHIBIT ARABIC ",
    "FORM SHAPINGaACTIVATE ARABIC FORM SHAPINGaNATIONAL DIGIT SHAPESaNOMINAL DIGIT SHAPES",
    "aSUPERSCRIPT ZERObLATIN SMALL LETTER I"]⟩,
   ⟨0x2074, ["aSUPERSCRIPT FOURbFIVEbSIXbSEVENbEIGHTbNINEbPLUS SIGNbMINUSbEQUALS SIGNbLEFT ",
    "PARENTHESISbRIGHT PARENTHESISbLATIN SMALL LETTER NaSUBSCRIPT ZERObONEbTWObTHREEbFOURbFIVE",
    "bSIXbSEVENbEIGHTbNINEbPLUS SIGNbMINUSbEQUALS SIGNbLEFT PARENTHESISbRIGHT PARENTHESIS"]⟩,
   ⟨0x2090, ["aLATIN SUBSCRIPT SMALL LETTER AeEeOeXeSCHWAeHeKeLeMeNePeSeT"]⟩,
   ⟨0x20A0, ["aEURO-CURRENCY SIGNaCOLON SIGNaCRUZEIRO SIGNaFRENCH FRANC SIGNaLIRA SIGNaMILL ",
    "SIGNaNAIRA SIGNaPESETA SIGNaRUPEE SIGNaWON SIGNaNEW SHEQEL SIGNaDONG SIGNaEURO SIGNaKIP ",
    "SIGNaTUGRIK SIGNaDRACHMA SIGNaGERMAN PENNY SIGNaPESO SIGNaGUARANI SIGNaAUSTRAL SIGN",
    "aHRYVNIA SIGNaCEDI SIGNaLIVRE TOURNOIS SIGNaSPESMILO SIGNaTENGE SIGNaINDIAN RUPEE SIGN",
    "aTURKISH LIRA SIGNaNORDIC MARK SIGNaMANAT SIGNaRUBLE SIGNaLARI SIGNaBITCOIN SIGNaSOM SIGN"]⟩,
   ⟨0x20D0, ["aCOMBINING LEFT HARPOON ABOVEbRIGHT HARPOON ABOVEbLONG VERTICAL LINE OVERLAY",
    "bSHORT VERTICAL LINE OVERLAYbANTICLOCKWISE ARROW ABOVEbCLOCKWISE ARROW ABOVEbLEFT ARROW ",
    "ABOVEbRIGHT ARROW ABOVEbRING OVERLAYbCLOCKWISE RING OVERLAYbANTICLOCKWISE RING OVERLAY",
    "bTHREE DOTS ABOVEbFOUR DOTS ABOVEbENCLOSING CIRCLEcSQUAREcDIAMONDcCIRCLE BACKSLASHbLEFT ",
    "RIGHT ARROW ABOVEbENCLOSING SCREENcKEYCAPcUPWARD POINTING TRIANGLEbREVERSE SOLIDUS OVERLAY",
    "bDOUBLE VERTICAL STROKE OVERLAYbANNUITY SYMBOLbTRIPLE UNDERDOTbWIDE BRIDGE ABOVE",
    "bLEFTWARDS ARROW OVERLAYbLONG DOUBLE SOLIDUS OVERLAYbRIGHTWARDS HARPOON WITH BARB ",
    "DOWNWARDSbLEFTWARDS HARPOON WITH BARB DOWNWARDSbLEFT ARROW BELOWbRIGHT ARROW BELOW",
    "bASTERISK ABOVE"]⟩,
   ⟨0x2100, ["aACCOUNT OFaADDRESSED TO THE SUBJECTaDOUBLE-STRUCK CAPITAL CaDEGREE CELSIUS",
    "aCENTRE LINE SYMBOLaCARE OFaCADA UNAaEULER CONSTANTaSCRUPLEaDEGREE FAHRENHEITaSCRIPT ",
    "SMALL GbCAPITAL HaBLACK-LETTER CAPITAL HaDOUBLE-STRUCK CAPITAL HaPLANCK CONSTANTcOVER TWO ",
    "PIaSCRIPT CAPITAL IaBLACK-LETTER CAPITAL IaSCRIPT CAPITAL LbSMALL LaL B BAR SYMBOL",
    "aDOUBLE-STRUCK CAPITAL NaNUMERO SIGNaSOUND RECORDING COPYRIGHTaSCRIPT CAPITAL P",
    "aDOUBLE-STRUCK CAPITAL PcQaSCRIPT CAPITAL RaBLACK-LETTER CAPITAL RaDOUBLE-STRUCK CAPITAL R",
    "aPRESCRIPTION TAKEaRESPONSEaSERVICE MARKaTELEPHONE SIGNaTRADE MARK SIGNaVERSICLE",
    "aDOUBLE-STRUCK CAPITAL ZaOUNCE SIGNaOHM SIGNaINVERTED OHM SIGNaBLACK-LETTER CAPITAL Z",
    "aTURNED GREEK SMALL LETTER IOTAaKELVIN SIGNaANGSTROM SIGNaSCRIPT CAPITAL BaBLACK-LETTER ",
    "CAPITAL CaESTIMATED SYMBOLaSCRIPT SMALL EbCAPITAL EcFaTURNED CAPITAL FaSCRIPT CAPITAL M",
    "bSMALL OaALEF SYMBOLaBET SYMBOLaGIMEL SYMBOLaDALET SYMBOLaINFORMATION SOURCEaROTATED ",
    "CAPITAL QaFACSIMILE SIGNaDOUBLE-STRUCK SMALL PIcGAMMAbCAPITAL GAMMAcPIbN-ARY SUMMATION",
    "aTURNED SANS-SERIF CAPITAL GdLaREVERSED SANS-SERIF CAPITAL LaTURNED SANS-SERIF CAPITAL Y",
    "aDOUBLE-STRUCK ITALIC CAPITAL DcSMALL DdEdIdJaPROPERTY LINEaTURNED AMPERSANDaPER SIGN",
    "aAKTIESELSKABaTURNED SMALL FaSYMBOL FOR SAMARITAN SOURCEaVULGAR FRACTION ONE SEVENTHdNINTH",
    "dTENTHdTHIRDcTWO THIRDScONE FIFTHcTWO FIFTHScTHREE FIFTHScFOUR FIFTHScONE SIXTHcFIVE ",
    "SIXTHScONE EIGHTHcTHREE EIGHTHScFIVE EIGHTHScSEVEN EIGHTHSaFRACTION NUMERATOR ONEaROMAN ",
    "NUMERAL ONEcTWOcTHREEcFOURcFIVEcSIXcSEVENcEIGHTcNINEcTENcELEVENcTWELVEcFIFTYcONE HUNDRED",
    "cFIVE HUNDREDcONE THOUSANDaSMALL ROMAN NUMERAL ONEdTWOdTHREEdFOURdFIVEdSIXdSEVENdEIGHT",
    "dNINEdTENdELEVENdTWELVEdFIFTYdONE HUNDREDdFIVE HUNDREDdONE THOUSANDaROMAN NUMERAL ONE ",
    "THOUSAND C DcFIVE THOUSANDcTEN THOUSANDcREVERSED ONE HUNDREDaLATIN SMALL LETTER REVERSED C",
    "aROMAN NUMERAL SIX LATE FORMcFIFTY EARLY FORMdTHOUSANDcONE HUNDRED THOUSANDaVULGAR ",
    "FRACTION ZERO THIRDSaTURNED DIGIT TWOcTHREE"]⟩,
   ⟨0x2190, ["aLEFTWARDS ARROWaUPWARDS ARROWaRIGHTWARDS ARROWaDOWNWARDS ARROWaLEFT RIGHT ARROW",
    "aUP DOWN ARROWaNORTH WEST ARROWbEAST ARROWaSOUTH EAST ARROWbWEST ARROWaLEFTWARDS ARROW ",
    "WITH STROKEaRIGHTWARDS ARROW WITH STROKEaLEFTWARDS WAVE ARROWaRIGHTWARDS WAVE ARROW",
    "aLEFTWARDS TWO HEADED ARROWaUPWARDS TWO HEADED ARROWaRIGHTWARDS TWO HEADED ARROW",
    "aDOWNWARDS TWO HEADED ARROWaLEFTWARDS ARROW WITH TAILaRIGHTWARDS ARROW WITH TAIL",
    "aLEFTWARDS ARROW FROM BARaUPWARDS ARROW FROM BARaRIGHTWARDS ARROW FROM BARaDOWNWARDS ",
    "ARROW FROM BARaUP DOWN ARROW WITH BASEaLEFTWARDS ARROW WITH HOOKaRIGHTWARDS ARROW WITH ",
    "HOOKaLEFTWARDS ARROW WITH LOOPaRIGHTWARDS ARROW WITH LOOPaLEFT RIGHT WAVE ARROWcARROW ",
    "WITH STROKEaDOWNWARDS ZIGZAG ARROWaUPWARDS ARROW WITH TIP LEFTWARDSeRIGHTWARDSaDOWNWARDS ",
    "ARROW WITH TIP LEFTWARDSeRIGHTWARDSaRIGHTWARDS ARROW WITH CORNER DOWNWARDSaDOWNWARDS ",
    "ARROW WITH CORNER LEFTWARDSaANTICLOCKWISE TOP SEMICIRCLE ARROWaCLOCKWISE TOP SEMICIRCLE ",
    "ARROWaNORTH WEST ARROW TO LONG BARaLEFTWARDS ARROW TO BAR OVER RIGHTWARDS ARROW TO BAR",
    "aANTICLOCKWISE OPEN CIRCLE ARROWaCLOCKWISE OPEN CIRCLE ARROWaLEFTWARDS HARPOON WITH BARB ",
    "UPWARDSeDOWNWARDSaUPWARDS HARPOON WITH BARB RIGHTWARDSeLEFTWARDSaRIGHTWARDS HARPOON WITH ",
    "BARB UPWARDSeDOWNWARDSaDOWNWARDS HARPOON WITH BARB RIGHTWARDSeLEFTWARDSaRIGHTWARDS ARROW ",
    "OVER LEFTWARDS ARROWaUPWARDS ARROW LEFTWARDS OF DOWNWARDS ARROWaLEFTWARDS ARROW OVER ",
    "RIGHTWARDS ARROWbPAIRED ARROWSaUPWARDS PAIRED ARROWSaRIGHTWARDS PAIRED ARROWSaDOWNWARDS ",
    "PAIRED ARROWSaLEFTWARDS HARPOON OVER RIGHTWARDS HARPOONaRIGHTWARDS HARPOON OVER LEFTWARDS ",
    "HARPOONaLEFTWARDS DOUBLE ARROW WITH STROKEaLEFT RIGHT DOUBLE ARROW WITH STROKEaRIGHTWARDS ",
    "DOUBLE ARROW WITH STROKEaLEFTWARDS DOUBLE ARROWaUPWARDS DOUBLE ARROWaRIGHTWARDS DOUBLE ",
    "ARROWaDOWNWARDS DOUBLE ARROWaLEFT RIGHT DOUBLE ARROWaUP DOWN DOUBLE ARROWaNORTH WEST ",
    "DOUBLE ARROWbEAST DOUBLE ARROWaSOUTH EAST DOUBLE ARROWbWEST DOUBLE ARROWaLEFTWARDS TRIPLE ",
    "ARROWaRIGHTWARDS TRIPLE ARROWaLEFTWARDS SQUIGGLE ARROWaRIGHTWARDS SQUIGGLE ARROWaUPWARDS ",
    "ARROW WITH DOUBLE STROKEaDOWNWARDS ARROW WITH DOUBLE STROKEaLEFTWARDS DASHED ARROW",
    "aUPWARDS DASHED ARROWaRIGHTWARDS DASHED ARROWaDOWNWARDS DASHED ARROWaLEFTWARDS ARROW TO ",
    "BARaRIGHTWARDS ARROW TO BARaLEFTWARDS WHITE ARROWaUPWARDS WHITE ARROWaRIGHTWARDS WHITE ",
    "ARROWaDOWNWARDS WHITE ARROWaUPWARDS WHITE ARROW FROM BARdON PEDESTALfWITH HORIZONTAL BAR",
    "gVERTICAL BARcDOUBLE ARROWeON PEDESTALaRIGHTWARDS WHITE ARROW FROM WALLaNORTH WEST ARROW ",
    "TO CORNERaSOUTH EAST ARROW TO CORNERaUP DOWN WHITE ARROWaRIGHT ARROW WITH SMALL CIRCLE",
    "aDOWNWARDS ARROW LEFTWARDS OF UPWARDS ARROWaTHREE RIGHTWARDS ARROWSaLEFTWARDS ARROW WITH ",
    "VERTICAL STROKEaRIGHTWARDS ARROW WITH VERTICAL STROKEaLEFT RIGHT ARROW WITH VERTICAL ",
    "STROKEaLEFTWARDS ARROW WITH DOUBLE VERTICAL STROKEaRIGHTWARDS ARROW WITH DOUBLE VERTICAL ",
    "STROKEaLEFT RIGHT ARROW WITH DOUBLE VERTICAL STROKEaLEFTWARDS OPEN-HEADED ARROW",
    "aRIGHTWARDS OPEN-HEADED ARROWaLEFT RIGHT OPEN-HEADED ARROWaFOR ALLaCOMPLEMENTaPARTIAL ",
    "DIFFERENTIALaTHERE EXISTSbDOES NOT EXISTaEMPTY SETaINCREMENTaNABLAaELEMENT OFaNOT AN ",
    "ELEMENT OFaSMALL ELEMENT OFaCONTAINS AS MEMBERaDOES NOT CONTAIN AS MEMBERaSMALL CONTAINS ",
    "AS MEMBERaEND OF PROOFaN-ARY PRODUCTbCOPRODUCTbSUMMATIONaMINUS SIGNaMINUS-OR-PLUS SIGN",
    "aDOT PLUSaDIVISION SLASHaSET MINUSaASTERISK OPERATORaRING OPERATORaBULLET OPERATORaSQUARE ",
    "ROOTaCUBE ROOTaFOURTH ROOTaPROPORTIONAL TOaINFINITYaRIGHT ANGLEaANGLEaMEASURED ANGLE",
    "aSPHERICAL ANGLEaDIVIDESaDOES NOT DIVIDEaPARALLEL TOaNOT PARALLEL TOaLOGICAL ANDbOR",
    "aINTERSECTIONaUNIONaINTEGRALaDOUBLE INTEGRALaTRIPLE INTEGRALaCONTOUR INTEGRALaSURFACE ",
    "INTEGRALaVOLUME INTEGRALaCLOCKWISE INTEGRALbCONTOUR INTEGRALaANTICLOCKWISE CONTOUR ",
    "INTEGRALaTHEREFOREaBECAUSEaRATIOaPROPORTIONaDOT MINUSaEXCESSaGEOMETRIC PROPORTION",
    "aHOMOTHETICaTILDE OPERATORaREVERSED TILDEaINVERTED LAZY SaSINE WAVEaWREATH PRODUCTaNOT ",
    "TILDEaMINUS TILDEaASYMPTOTICALLY EQUAL TOaNOT ASYMPTOTICALLY EQUAL TOaAPPROXIMATELY EQUAL ",
    "TObBUT NOT ACTUALLY EQUAL TOaNEITHER APPROXIMATELY NOR ACTUALLY EQUAL TOaALMOST EQUAL TO",
    "aNOT ALMOST EQUAL TOaALMOST EQUAL OR EQUAL TOaTRIPLE TILDEaALL EQUAL TOaEQUIVALENT TO",
    "aGEOMETRICALLY EQUIVALENT TOaDIFFERENCE BETWEENaAPPROACHES THE LIMITaGEOMETRICALLY EQUAL ",
    "TOaAPPROXIMATELY EQUAL TO OR THE IMAGE OFaIMAGE OF OR APPROXIMATELY EQUAL TOaCOLON EQUALS",
    "aEQUALS COLONaRING IN EQUAL TObEQUAL TOaCORRESPONDS TOaESTIMATESaEQUIANGULAR TOaSTAR ",
    "EQUALSaDELTA EQUAL TOaEQUAL TO BY DEFINITIONaMEASURED BYaQUESTIONED EQUAL TOaNOT EQUAL TO",
    "aIDENTICAL TOaNOT IDENTICAL TOaSTRICTLY EQUIVALENT TOaLESS-THAN OR EQUAL TOaGREATER-THAN ",
    "OR EQUAL TOaLESS-THAN OVER EQUAL TOaGREATER-THAN OVER EQUAL TOaLESS-THAN BUT NOT EQUAL TO",
    "aGREATER-THAN BUT NOT EQUAL TOaMUCH LESS-THANbGREATER-THANaBETWEENaNOT EQUIVALENT TO",
    "bLESS-THANbGREATER-THANaNEITHER LESS-THAN NOR EQUAL TObGREATER-THAN NOR EQUAL TO",
    "aLESS-THAN OR EQUIVALENT TOaGREATER-THAN OR EQUIVALENT TOaNEITHER LESS-THAN NOR ",
    "EQUIVALENT TObGREATER-THAN NOR EQUIVALENT TOaLESS-THAN OR GREATER-THANaGREATER-THAN OR ",
    "LESS-THANaNEITHER LESS-THAN NOR GREATER-THANbGREATER-THAN NOR LESS-THANaPRECEDESaSUCCEEDS",
    "aPRECEDES OR EQUAL TOaSUCCEEDS OR EQUAL TOaPRECEDES OR EQUIVALENT TOaSUCCEEDS OR ",
    "EQUIVALENT TOaDOES NOT PRECEDEcSUCCEEDaSUBSET OFaSUPERSET OFaNOT A SUBSET OFcSUPERSET OF",
    "aSUBSET OF OR EQUAL TOaSUPERSET OF OR EQUAL TOaNEITHER A SUBSET OF NOR EQUAL TOcSUPERSET ",
    "OF NOR EQUAL TOaSUBSET OF WITH NOT EQUAL TOaSUPERSET OF WITH NOT EQUAL TOaMULTISET",
    "bMULTIPLICATIONbUNIONaSQUARE IMAGE OFbORIGINAL OFbIMAGE OF OR EQUAL TObORIGINAL OF OR ",
    "EQUAL TObCAPbCUPaCIRCLED PLUSbMINUSbTIMESbDIVISION SLASHbDOT OPERATORbRING OPERATOR",
    "bASTERISK OPERATORbEQUALSbDASHaSQUARED PLUSbMINUSbTIMESbDOT OPERATORaRIGHT TACKaLEFT TACK",
    "aDOWN TACKaUP TACKaASSERTIONaMODELSaTRUEaFORCESaTRIPLE VERTICAL BAR RIGHT TURNSTILE",
    "aDOUBLE VERTICAL BAR DOUBLE RIGHT TURNSTILEaDOES NOT PROVEaNOT TRUEaDOES NOT FORCE",
    "aNEGATED DOUBLE VERTICAL BAR DOUBLE RIGHT TURNSTILEaPRECEDES UNDER RELATIONaSUCCEEDS ",
    "UNDER RELATIONaNORMAL SUBGROUP OFaCONTAINS AS NORMAL SUBGROUPaNORMAL SUBGROUP OF OR EQUAL ",
    "TOaCONTAINS AS NORMAL SUBGROUP OR EQUAL TOaORIGINAL OFaIMAGE OFaMULTIMAPaHERMITIAN ",
    "CONJUGATE MATRIXaINTERCALATEaXORaNANDaNORaRIGHT ANGLE WITH ARCbTRIANGLEaN-ARY LOGICAL AND",
    "cORbINTERSECTIONbUNIONaDIAMOND OPERATORaDOT OPERATORaSTAR OPERATORaDIVISION TIMESaBOWTIE",
    "aLEFT NORMAL FACTOR SEMIDIRECT PRODUCTaRIGHT NORMAL FACTOR SEMIDIRECT PRODUCTaLEFT ",
    "SEMIDIRECT PRODUCTaRIGHT SEMIDIRECT PRODUCTaREVERSED TILDE EQUALSaCURLY LOGICAL ORcAND",
    "aDOUBLE SUBSETbSUPERSETbINTERSECTIONbUNIONaPITCHFORKaEQUAL AND PARALLEL TOaLESS-THAN WITH ",
    "DOTaGREATER-THAN WITH DOTaVERY MUCH LESS-THANcGREATER-THANaLESS-THAN EQUAL TO OR ",
    "GREATER-THANaGREATER-THAN EQUAL TO OR LESS-THANaEQUAL TO OR LESS-THANdGREATER-THAN",
    "dPRECEDESdSUCCEEDSaDOES NOT PRECEDE OR EQUALcSUCCEED OR EQUALaNOT SQUARE IMAGE OF OR ",
    "EQUAL TOcORIGINAL OF OR EQUAL TOaSQUARE IMAGE OF OR NOT EQUAL TObORIGINAL OF OR NOT EQUAL ",
    "TOaLESS-THAN BUT NOT EQUIVALENT TOaGREATER-THAN BUT NOT EQUIVALENT TOaPRECEDES BUT NOT ",
    "EQUIVALENT TOaSUCCEEDS BUT NOT EQUIVALENT TOaNOT NORMAL SUBGROUP OFaDOES NOT CONTAIN AS ",
    "NORMAL SUBGROUPaNOT NORMAL SUBGROUP OF OR EQUAL TOaDOES NOT CONTAIN AS NORMAL SUBGROUP OR ",
    "EQUALaVERTICAL ELLIPSISaMIDLINE HORIZONTAL ELLIPSISaUP RIGHT DIAGONAL ELLIPSISaDOWN RIGHT ",
    "DIAGONAL ELLIPSISaELEMENT OF WITH LONG HORIZONTAL STROKEdVERTICAL BAR AT END OF ",
    "HORIZONTAL STROKEaSMALL ELEMENT OF WITH VERTICAL BAR AT END OF HORIZONTAL STROKEaELEMENT ",
    "OF WITH DOT ABOVEdOVERBARaSMALL ELEMENT OF WITH OVERBARaELEMENT OF WITH UNDERBARdTWO ",
    "HORIZONTAL STROKESaCONTAINS WITH LONG HORIZONTAL STROKEcVERTICAL BAR AT END OF HORIZONTAL ",
    "STROKEaSMALL CONTAINS WITH VERTICAL BAR AT END OF HORIZONTAL STROKEaCONTAINS WITH OVERBAR",
    "aSMALL CONTAINS WITH OVERBARaZ NOTATION BAG MEMBERSHIPaDIAMETER SIGNaELECTRIC ARROWaHOUSE",
    "aUP ARROWHEADaDOWN ARROWHEADaPROJECTIVEaPERSPECTIVEaWAVY LINEaLEFT CEILINGaRIGHT CEILING",
    "aLEFT FLOORaRIGHT FLOORaBOTTOM RIGHT CROPbLEFT CROPaTOP RIGHT CROPbLEFT CROPaREVERSED NOT ",
    "SIGNaSQUARE LOZENGEaARCaSEGMENTaSECTORaTELEPHONE RECORDERaPOSITION INDICATORaVIEWDATA ",
    "SQUAREaPLACE OF INTEREST SIGNaTURNED NOT SIGNaWATCHaHOURGLASSaTOP LEFT CORNERbRIGHT CORNER",
    "aBOTTOM LEFT CORNERbRIGHT CORNERaTOP HALF INTEGRALaBOTTOM HALF INTEGRALaFROWNaSMILEaUP ",
    "ARROWHEAD BETWEEN TWO HORIZONTAL BARSaOPTION KEYaERASE TO THE RIGHTaX IN A RECTANGLE BOX",
    "aKEYBOARDaLEFT-POINTING ANGLE BRACKETaRIGHT-POINTING ANGLE BRACKETaERASE TO THE LEFT",
    "aBENZENE RINGaCYLINDRICITYaALL AROUND-PROFILEaSYMMETRYaTOTAL RUNOUTaDIMENSION ORIGIN",
    "aCONICAL TAPERaSLOPEaCOUNTERBOREaCOUNTERSINKaAPL FUNCTIONAL SYMBOL I-BEAMdSQUISH QUAD",
    "dQUAD EQUALeDIVIDEeDIAMONDeJOTeCIRCLEdCIRCLE STILEeJOTdSLASH BARdBACKSLASH BARdQUAD SLASH",
    "eBACKSLASHeLESS-THANeGREATER-THANdLEFTWARDS VANEdRIGHTWARDS VANEdQUAD LEFTWARDS ARROW",
    "eRIGHTWARDS ARROWdCIRCLE BACKSLASHdDOWN TACK UNDERBARdDELTA STILEdQUAD DOWN CARETeDELTA",
    "dDOWN TACK JOTdUPWARDS VANEdQUAD UPWARDS ARROWdUP TACK OVERBARdDEL STILEdQUAD UP CARETeDEL",
    "dUP TACK JOTdDOWNWARDS VANEdQUAD DOWNWARDS ARROWdQUOTE UNDERBARdDELTA UNDERBARdDIAMOND ",
    "UNDERBARdJOT UNDERBARdCIRCLE UNDERBARdUP SHOE JOTdQUOTE QUADdCIRCLE STARdQUAD COLONdUP ",
    "TACK DIAERESISdDEL DIAERESISdSTAR DIAERESISdJOT DIAERESISdCIRCLE DIAERESISdDOWN SHOE STILE",
    "dLEFT SHOE STILEdTILDE DIAERESISdGREATER-THAN DIAERESISdCOMMA BARdDEL TILDEdZILDEdSTILE ",
    "TILDEdSEMICOLON UNDERBARdQUAD NOT EQUALeQUESTIONdDOWN CARET TILDEdUP CARET TILDEdIOTAdRHO",
    "dOMEGAdALPHA UNDERBARdEPSILON UNDERBARdIOTA UNDERBARdOMEGA UNDERBARdALPHAaNOT CHECK MARK",
    "aRIGHT ANGLE WITH DOWNWARDS ZIGZAG ARROWaSHOULDERED OPEN BOXaBELL SYMBOLaVERTICAL LINE ",
    "WITH MIDDLE DOTaINSERTION SYMBOLaCONTINUOUS UNDERLINE SYMBOLaDISCONTINUOUS UNDERLINE ",
    "SYMBOLaEMPHASIS SYMBOLaCOMPOSITION SYMBOLaWHITE SQUARE WITH CENTRE VERTICAL LINEaENTER ",
    "SYMBOLaALTERNATIVE KEY SYMBOLaHELM SYMBOLaCIRCLED HORIZONTAL BAR WITH NOTCHbTRIANGLE DOWN",
    "aBROKEN CIRCLE WITH NORTHWEST ARROWaUNDO SYMBOLaMONOSTABLE SYMBOLaHYSTERESIS SYMBOL",
    "aOPEN-CIRCUIT-OUTPUT H-TYPE SYMBOLbL-TYPE SYMBOLaPASSIVE-PULL-DOWN-OUTPUT SYMBOL",
    "aPASSIVE-PULL-UP-OUTPUT SYMBOLaDIRECT CURRENT SYMBOL FORM TWOaSOFTWARE-FUNCTION SYMBOL",
    "aAPL FUNCTIONAL SYMBOL QUADaDECIMAL SEPARATOR KEY SYMBOLaPREVIOUS PAGEaNEXT PAGEaPRINT ",
    "SCREEN SYMBOLaCLEAR SCREEN SYMBOLaLEFT PARENTHESIS UPPER HOOKcEXTENSIONcLOWER HOOKaRIGHT ",
    "PARENTHESIS UPPER HOOKcEXTENSIONcLOWER HOOKaLEFT SQUARE BRACKET UPPER CORNERdEXTENSION",
    "dLOWER CORNERaRIGHT SQUARE BRACKET UPPER CORNERdEXTENSIONdLOWER CORNERaLEFT CURLY BRACKET ",
    "UPPER HOOKdMIDDLE PIECEdLOWER HOOKaCURLY BRACKET EXTENSIONaRIGHT CURLY BRACKET UPPER HOOK",
    "dMIDDLE PIECEdLOWER HOOKaINTEGRAL EXTENSIONaHORIZONTAL LINE EXTENSIONaUPPER LEFT OR LOWER ",
    "RIGHT CURLY BRACKET SECTIONbRIGHT OR LOWER LEFT CURLY BRACKET SECTIONaSUMMATION TOPbBOTTOM",
    "aTOP SQUARE BRACKETaBOTTOM SQUARE BRACKETdOVER TOP SQUARE BRACKETaRADICAL SYMBOL BOTTOM",
    "aLEFT VERTICAL BOX LINEaRIGHT VERTICAL BOX LINEaHORIZONTAL SCAN LINE-1cLINE-3cLINE-7",
    "cLINE-9aDENTISTRY SYMBOL LIGHT VERTICAL AND TOP RIGHTfBOTTOM RIGHTeWITH CIRCLEdDOWN AND ",
    "HORIZONTAL WITH CIRCLEdUP AND HORIZONTAL WITH CIRCLEdVERTICAL WITH TRIANGLEdDOWN AND ",
    "HORIZONTAL WITH TRIANGLEdUP AND HORIZONTAL WITH TRIANGLEdVERTICAL AND WAVEdDOWN AND ",
    "HORIZONTAL WITH WAVEdUP AND HORIZONTAL WITH WAVEdDOWN AND HORIZONTALdUP AND HORIZONTAL",
    "dVERTICAL AND TOP LEFTfBOTTOM LEFTaSQUARE FOOTaRETURN SYMBOLaEJECT SYMBOLaVERTICAL LINE ",
    "EXTENSIONaMETRICAL BREVEbLONG OVER SHORTbSHORT OVER LONGbLONG OVER TWO SHORTSbTWO SHORTS ",
    "OVER LONGdJOINEDbTRISEMEbTETRASEMEbPENTASEMEaEARTH GROUNDaFUSEaTOP PARENTHESISaBOTTOM ",
    "PARENTHESISaTOP CURLY BRACKETaBOTTOM CURLY BRACKETaTOP TORTOISE SHELL BRACKETaBOTTOM ",
    "TORTOISE SHELL BRACKETaWHITE TRAPEZIUMaBENZENE RING WITH CIRCLEaSTRAIGHTNESSaFLATNESSaAC ",
    "CURRENTaELECTRICAL INTERSECTIONaDECIMAL EXPONENT SYMBOLaBLACK RIGHT-POINTING DOUBLE ",
    "TRIANGLEbLEFT-POINTING DOUBLE TRIANGLEbUP-POINTING DOUBLE TRIANGLEbDOWN-POINTING DOUBLE ",
    "TRIANGLEbRIGHT-POINTING DOUBLE TRIANGLE WITH VERTICAL BARbLEFT-POINTING DOUBLE TRIANGLE ",
    "WITH VERTICAL BARbRIGHT-POINTING TRIANGLE WITH DOUBLE VERTICAL BARaALARM CLOCKaSTOPWATCH",
    "aTIMER CLOCKaHOURGLASS WITH FLOWING SANDaBLACK MEDIUM LEFT-POINTING TRIANGLE",
    "cRIGHT-POINTING TRIANGLEcUP-POINTING TRIANGLEcDOWN-POINTING TRIANGLEaDOUBLE VERTICAL BAR",
    "aBLACK SQUARE FOR STOPbCIRCLE FOR RECORDaPOWER SYMBOLbON-OFF SYMBOLbON SYMBOLbSLEEP SYMBOL",
    "aOBSERVER EYE SYMBOLaSYMBOL FOR NULLcSTART OF HEADINGeTEXTcEND OF TEXTeTRANSMISSION",
    "cENQUIRYcACKNOWLEDGEcBELLcBACKSPACEcHORIZONTAL TABULATIONcLINE FEEDcVERTICAL TABULATION",
    "cFORM FEEDcCARRIAGE RETURNcSHIFT OUTdINcDATA LINK ESCAPEcDEVICE CONTROL ONEeTWOeTHREEeFOUR",
    "cNEGATIVE ACKNOWLEDGEcSYNCHRONOUS IDLEcEND OF TRANSMISSION BLOCKcCANCELcEND OF MEDIUM",
    "cSUBSTITUTEcESCAPEcFILE SEPARATORcGROUP SEPARATORcRECORD SEPARATORcUNIT SEPARATORcSPACE",
    "cDELETEaBLANK SYMBOLaOPEN BOXaSYMBOL FOR NEWLINEcDELETE FORM TWOcSUBSTITUTE FORM TWO"]⟩,
   ⟨0x2440, ["aOCR HOOKbCHAIRbFORKbINVERTED FORKbBELT BUCKLEbBOW TIEbBRANCH BANK ",
    "IDENTIFICATIONbAMOUNT OF CHECKbDASHbCUSTOMER ACCOUNT NUMBERbDOUBLE BACKSLASH"]⟩,
   ⟨0x2460, ["aCIRCLED DIGIT ONEcTWOcTHREEcFOURcFIVEcSIXcSEVENcEIGHTcNINEbNUMBER TENcELEVEN",
    "cTWELVEcTHIRTEENcFOURTEENcFIFTEENcSIXTEENcSEVENTEENcEIGHTEENcNINETEENcTWENTY",
    "aPARENTHESIZED DIGIT ONEcTWOcTHREEcFOURcFIVEcSIXcSEVENcEIGHTcNINEbNUMBER TENcELEVENcTWELVE",
    "cTHIRTEENcFOURTEENcFIFTEENcSIXTEENcSEVENTEENcEIGHTEENcNINETEENcTWENTYaDIGIT ONE FULL STOP",
    "bTWO FULL STOPbTHREE FULL STOPbFOUR FULL STOPbFIVE FULL STOPbSIX FULL STOPbSEVEN FULL STOP",
    "bEIGHT FULL STOPbNINE FULL STOPaNUMBER TEN FULL STOPbELEVEN FULL STOPbTWELVE FULL STOP",
    "bTHIRTEEN FULL STOPbFOURTEEN FULL STOPbFIFTEEN FULL STOPbSIXTEEN FULL STOPbSEVENTEEN FULL ",
    "STOPbEIGHTEEN FULL STOPbNINETEEN FULL STOPbTWENTY FULL STOPaPARENTHESIZED LATIN SMALL ",
    "LETTER AeBeCeDeEeFeGeHeIeJeKeLeMeNeOePeQeReSeTeUeVeWeXeYeZaCIRCLED LATIN CAPITAL LETTER A",
    "eBeCeDeEeFeGeHeIeJeKeLeMeNeOePeQeReSeTeUeVeWeXeYeZcSMALL LETTER AeBeCeDeEeFeGeHeIeJeKeLeM",
    "eNeOePeQeReSeTeUeVeWeXeYeZbDIGIT ZEROaNEGATIVE CIRCLED NUMBER ELEVENdTWELVEdTHIRTEEN",
    "dFOURTEENdFIFTEENdSIXTEENdSEVENTEENdEIGHTEENdNINETEENdTWENTYaDOUBLE CIRCLED DIGIT ONEdTWO",
    "dTHREEdFOURdFIVEdSIXdSEVENdEIGHTdNINEcNUMBER TENaNEGATIVE CIRCLED DIGIT ZEROaBOX DRAWINGS ",
    "LIGHT HORIZONTALcHEAVY HORIZONTALcLIGHT VERTICALcHEAVY VERTICALcLIGHT TRIPLE DASH ",
    "HORIZONTALcHEAVY TRIPLE DASH HORIZONTALcLIGHT TRIPLE DASH VERTICALcHEAVY TRIPLE DASH ",
    "VERTICALcLIGHT QUADRUPLE DASH HORIZONTALcHEAVY QUADRUPLE DASH HORIZONTALcLIGHT QUADRUPLE ",
    "DASH VERTICALcHEAVY QUADRUPLE DASH VERTICALcLIGHT DOWN AND RIGHTcDOWN LIGHT AND RIGHT ",
    "HEAVYdHEAVY AND RIGHT LIGHTcHEAVY DOWN AND RIGHTcLIGHT DOWN AND LEFTcDOWN LIGHT AND LEFT ",
    "HEAVYdHEAVY AND LEFT LIGHTcHEAVY DOWN AND LEFTcLIGHT UP AND RIGHTcUP LIGHT AND RIGHT HEAVY",
    "dHEAVY AND RIGHT LIGHTcHEAVY UP AND RIGHTcLIGHT UP AND LEFTcUP LIGHT AND LEFT HEAVYdHEAVY ",
    "AND LEFT LIGHTcHEAVY UP AND LEFTcLIGHT VERTICAL AND RIGHTcVERTICAL LIGHT AND RIGHT HEAVY",
    "cUP HEAVY AND RIGHT DOWN LIGHTcDOWN HEAVY AND RIGHT UP LIGHTcVERTICAL HEAVY AND RIGHT ",
    "LIGHTcDOWN LIGHT AND RIGHT UP HEAVYcUP LIGHT AND RIGHT DOWN HEAVYcHEAVY VERTICAL AND RIGHT",
    "cLIGHT VERTICAL AND LEFTcVERTICAL LIGHT AND LEFT HEAVYcUP HEAVY AND LEFT DOWN LIGHTcDOWN ",
    "HEAVY AND LEFT UP LIGHTcVERTICAL HEAVY AND LEFT LIGHTcDOWN LIGHT AND LEFT UP HEAVYcUP ",
    "LIGHT AND LEFT DOWN HEAVYcHEAVY VERTICAL AND LEFTcLIGHT DOWN AND HORIZONTALcLEFT HEAVY ",
    "AND RIGHT DOWN LIGHTcRIGHT HEAVY AND LEFT DOWN LIGHTcDOWN LIGHT AND HORIZONTAL HEAVY",
    "dHEAVY AND HORIZONTAL LIGHTcRIGHT LIGHT AND LEFT DOWN HEAVYcLEFT LIGHT AND RIGHT DOWN ",
    "HEAVYcHEAVY DOWN AND HORIZONTALcLIGHT UP AND HORIZONTALcLEFT HEAVY AND RIGHT UP LIGHT",
    "cRIGHT HEAVY AND LEFT UP LIGHTcUP LIGHT AND HORIZONTAL HEAVYdHEAVY AND HORIZONTAL LIGHT",
    "cRIGHT LIGHT AND LEFT UP HEAVYcLEFT LIGHT AND RIGHT UP HEAVYcHEAVY UP AND HORIZONTAL",
    "cLIGHT VERTICAL AND HORIZONTALcLEFT HEAVY AND RIGHT VERTICAL LIGHTcRIGHT HEAVY AND LEFT ",
    "VERTICAL LIGHTcVERTICAL LIGHT AND HORIZONTAL HEAVYcUP HEAVY AND DOWN HORIZONTAL LIGHT",
    "cDOWN HEAVY AND UP HORIZONTAL LIGHTcVERTICAL HEAVY AND HORIZONTAL LIGHTcLEFT UP HEAVY AND ",
    "RIGHT DOWN LIGHTcRIGHT UP HEAVY AND LEFT DOWN LIGHTcLEFT DOWN HEAVY AND RIGHT UP LIGHT",
    "cRIGHT DOWN HEAVY AND LEFT UP LIGHTcDOWN LIGHT AND UP HORIZONTAL HEAVYcUP LIGHT AND DOWN ",
    "HORIZONTAL HEAVYcRIGHT LIGHT AND LEFT VERTICAL HEAVYcLEFT LIGHT AND RIGHT VERTICAL HEAVY",
    "cHEAVY VERTICAL AND HORIZONTALcLIGHT DOUBLE DASH HORIZONTALcHEAVY DOUBLE DASH HORIZONTAL",
    "cLIGHT DOUBLE DASH VERTICALcHEAVY DOUBLE DASH VERTICALcDOUBLE HORIZONTALdVERTICALcDOWN ",
    "SINGLE AND RIGHT DOUBLEdDOUBLE AND RIGHT SINGLEcDOUBLE DOWN AND RIGHTcDOWN SINGLE AND ",
    "LEFT DOUBLEdDOUBLE AND LEFT SINGLEcDOUBLE DOWN AND LEFTcUP SINGLE AND RIGHT DOUBLEdDOUBLE ",
    "AND RIGHT SINGLEcDOUBLE UP AND RIGHTcUP SINGLE AND LEFT DOUBLEdDOUBLE AND LEFT SINGLE",
    "cDOUBLE UP AND LEFTcVERTICAL SINGLE AND RIGHT DOUBLEdDOUBLE AND RIGHT SINGLEcDOUBLE ",
    "VERTICAL AND RIGHTcVERTICAL SINGLE AND LEFT DOUBLEdDOUBLE AND LEFT SINGLEcDOUBLE VERTICAL ",
    "AND LEFTcDOWN SINGLE AND HORIZONTAL DOUBLEdDOUBLE AND HORIZONTAL SINGLEcDOUBLE DOWN AND ",
    "HORIZONTALcUP SINGLE AND HORIZONTAL DOUBLEdDOUBLE AND HORIZONTAL SINGLEcDOUBLE UP AND ",
    "HORIZONTALcVERTICAL SINGLE AND HORIZONTAL DOUBLEdDOUBLE AND HORIZONTAL SINGLEcDOUBLE ",
    "VERTICAL AND HORIZONTALcLIGHT ARC DOWN AND RIGHTgLEFTeUP AND LEFTgRIGHTdDIAGONAL UPPER ",
    "RIGHT TO LOWER LEFTfLEFT TO LOWER RIGHTeCROSSdLEFTdUPdRIGHTdDOWNcHEAVY LEFTdUPdRIGHTdDOWN",
    "cLIGHT LEFT AND HEAVY RIGHTdUP AND HEAVY DOWNcHEAVY LEFT AND LIGHT RIGHTdUP AND LIGHT DOWN",
    "aUPPER HALF BLOCKaLOWER ONE EIGHTH BLOCKcQUARTER BLOCKbTHREE EIGHTHS BLOCKbHALF BLOCK",
    "bFIVE EIGHTHS BLOCKbTHREE QUARTERS BLOCKbSEVEN EIGHTHS BLOCKaFULL BLOCKaLEFT SEVEN ",
    "EIGHTHS BLOCKbTHREE QUARTERS BLOCKbFIVE EIGHTHS BLOCKbHALF BLOCKbTHREE EIGHTHS BLOCKbONE ",
    "QUARTER BLOCKcEIGHTH BLOCKaRIGHT HALF BLOCKaLIGHT SHADEaMEDIUM SHADEaDARK SHADEaUPPER ONE ",
    "EIGHTH BLOCKaRIGHT ONE EIGHTH BLOCKaQUADRANT LOWER LEFTcRIGHTbUPPER LEFTdAND LOWER LEFT ",
    "AND LOWER RIGHTfRIGHTeUPPER RIGHT AND LOWER LEFTiRIGHTcRIGHTdAND LOWER LEFTgAND LOWER ",
    "RIGHTaBLACK SQUAREaWHITE SQUAREcWITH ROUNDED CORNERScCONTAINING BLACK SMALL SQUAREaSQUARE ",
    "WITH HORIZONTAL FILLcVERTICAL FILLcORTHOGONAL CROSSHATCH FILLcUPPER LEFT TO LOWER RIGHT ",
    "FILLdRIGHT TO LOWER LEFT FILLcDIAGONAL CROSSHATCH FILLaBLACK SMALL SQUAREaWHITE SMALL ",
    "SQUAREaBLACK RECTANGLEaWHITE RECTANGLEaBLACK VERTICAL RECTANGLEaWHITE VERTICAL RECTANGLE",
    "aBLACK PARALLELOGRAMaWHITE PARALLELOGRAMaBLACK UP-POINTING TRIANGLEaWHITE UP-POINTING ",
    "TRIANGLEaBLACK UP-POINTING SMALL TRIANGLEaWHITE UP-POINTING SMALL TRIANGLEaBLACK ",
    "RIGHT-POINTING TRIANGLEaWHITE RIGHT-POINTING TRIANGLEaBLACK RIGHT-POINTING SMALL TRIANGLE",
    "aWHITE RIGHT-POINTING SMALL TRIANGLEaBLACK RIGHT-POINTING POINTERaWHITE RIGHT-POINTING ",
    "POINTERaBLACK DOWN-POINTING TRIANGLEaWHITE DOWN-POINTING TRIANGLEaBLACK DOWN-POINTING ",
    "SMALL TRIANGLEaWHITE DOWN-POINTING SMALL TRIANGLEaBLACK LEFT-POINTING TRIANGLEaWHITE ",
    "LEFT-POINTING TRIANGLEaBLACK LEFT-POINTING SMALL TRIANGLEaWHITE LEFT-POINTING SMALL ",
    "TRIANGLEaBLACK LEFT-POINTING POINTERaWHITE LEFT-POINTING POINTERaBLACK DIAMONDaWHITE ",
    "DIAMONDcCONTAINING BLACK SMALL DIAMONDaFISHEYEaLOZENGEaWHITE CIRCLEaDOTTED CIRCLEaCIRCLE ",
    "WITH VERTICAL FILLaBULLSEYEaBLACK CIRCLEaCIRCLE WITH LEFT HALF BLACKcRIGHT HALF BLACK",
    "cLOWER HALF BLACKcUPPER HALF BLACKdRIGHT QUADRANT BLACKcALL BUT UPPER LEFT QUADRANT BLACK",
    "aLEFT HALF BLACK CIRCLEaRIGHT HALF BLACK CIRCLEaINVERSE BULLETbWHITE CIRCLEaUPPER HALF ",
    "INVERSE WHITE CIRCLEaLOWER HALF INVERSE WHITE CIRCLEaUPPER LEFT QUADRANT CIRCULAR ARC",
    "bRIGHT QUADRANT CIRCULAR ARCaLOWER RIGHT QUADRANT CIRCULAR ARCbLEFT QUADRANT CIRCULAR ARC",
    "aUPPER HALF CIRCLEaLOWER HALF CIRCLEaBLACK LOWER RIGHT TRIANGLEcLEFT TRIANGLEbUPPER LEFT ",
    "TRIANGLEcRIGHT TRIANGLEaWHITE BULLETaSQUARE WITH LEFT HALF BLACKcRIGHT HALF BLACKcUPPER ",
    "LEFT DIAGONAL HALF BLACKcLOWER RIGHT DIAGONAL HALF BLACKaWHITE SQUARE WITH VERTICAL ",
    "BISECTING LINEbUP-POINTING TRIANGLE WITH DOTaUP-POINTING TRIANGLE WITH LEFT HALF BLACK",
    "dRIGHT HALF BLACKaLARGE CIRCLEaWHITE SQUARE WITH UPPER LEFT QUADRANTdLOWER LEFT QUADRANT",
    "eRIGHT QUADRANTdUPPER RIGHT QUADRANTbCIRCLE WITH UPPER LEFT QUADRANTdLOWER LEFT QUADRANT",
    "eRIGHT QUADRANTdUPPER RIGHT QUADRANTaUPPER LEFT TRIANGLEbRIGHT TRIANGLEaLOWER LEFT ",
    "TRIANGLEaWHITE MEDIUM SQUAREaBLACK MEDIUM SQUAREaWHITE MEDIUM SMALL SQUAREaBLACK MEDIUM ",
    "SMALL SQUAREaLOWER RIGHT TRIANGLEaBLACK SUN WITH RAYSaCLOUDaUMBRELLAaSNOWMANaCOMETaBLACK ",
    "STARaWHITE STARaLIGHTNINGaTHUNDERSTORMaSUNaASCENDING NODEaDESCENDING NODEaCONJUNCTION",
    "aOPPOSITIONaBLACK TELEPHONEaWHITE TELEPHONEaBALLOT BOXcWITH CHECKdXaSALTIREaUMBRELLA WITH ",
    "RAIN DROPSaHOT BEVERAGEaWHITE SHOGI PIECEaBLACK SHOGI PIECEaSHAMROCKaREVERSED ROTATED ",
    "FLORAL HEART BULLETaBLACK LEFT POINTING INDEXbRIGHT POINTING INDEXaWHITE LEFT POINTING ",
    "INDEXbUP POINTING INDEXbRIGHT POINTING INDEXbDOWN POINTING INDEXaSKULL AND CROSSBONES",
    "aCAUTION SIGNaRADIOACTIVE SIGNaBIOHAZARD SIGNaCADUCEUSaANKHaORTHODOX CROSSaCHI RHOaCROSS ",
    "OF LORRAINEcJERUSALEMaSTAR AND CRESCENTaFARSI SYMBOLaADI SHAKTIaHAMMER AND SICKLEaPEACE ",
    "SYMBOLaYIN YANGaTRIGRAM FOR HEAVENcLAKEcFIREcTHUNDERcWINDcWATERcMOUNTAINcEARTHaWHEEL OF ",
    "DHARMAaWHITE FROWNING FACEbSMILING FACEaBLACK SMILING FACEaWHITE SUN WITH RAYSaFIRST ",
    "QUARTER MOONaLAST QUARTER MOONaMERCURYaFEMALE SIGNaEARTHaMALE SIGNaJUPITERaSATURNaURANUS",
    "aNEPTUNEaPLUTOaARIESaTAURUSaGEMINIaCANCERaLEOaVIRGOaLIBRAaSCORPIUSaSAGITTARIUSaCAPRICORN",
    "aAQUARIUSaPISCESaWHITE CHESS KINGcQUEENcROOKcBISHOPcKNIGHTcPAWNaBLACK CHESS KINGcQUEEN",
    "cROOKcBISHOPcKNIGHTcPAWNbSPADE SUITaWHITE HEART SUITbDIAMOND SUITaBLACK CLUB SUITaWHITE ",
    "SPADE SUITaBLACK HEART SUITbDIAMOND SUITaWHITE CLUB SUITaHOT SPRINGSaQUARTER NOTEaEIGHTH ",
    "NOTEaBEAMED EIGHTH NOTESbSIXTEENTH NOTESaMUSIC FLAT SIGNbNATURAL SIGNbSHARP SIGNaWEST ",
    "SYRIAC CROSSaEAST SYRIAC CROSSaUNIVERSAL RECYCLING SYMBOLaRECYCLING SYMBOL FOR TYPE-1 ",
    "PLASTICSdTYPE-2 PLASTICSdTYPE-3 PLASTICSdTYPE-4 PLASTICSdTYPE-5 PLASTICSdTYPE-6 PLASTICS",
    "dTYPE-7 PLASTICSdGENERIC MATERIALSaBLACK UNIVERSAL RECYCLING SYMBOLaRECYCLED PAPER SYMBOL",
    "aPARTIALLY-RECYCLED PAPER SYMBOLaPERMANENT PAPER SIGNaWHEELCHAIR SYMBOLaDIE FACE-1bFACE-2",
    "bFACE-3bFACE-4bFACE-5bFACE-6aWHITE CIRCLE WITH DOT RIGHTdTWO DOTSaBLACK CIRCLE WITH WHITE ",
    "DOT RIGHTdTWO WHITE DOTSaMONOGRAM FOR YANGcYINaDIGRAM FOR GREATER YANGcLESSER YINdYANG",
    "cGREATER YINaWHITE FLAGaBLACK FLAGaHAMMER AND PICKaANCHORaCROSSED SWORDSaSTAFF OF ",
    "AESCULAPIUSaSCALESaALEMBICaFLOWERaGEARaSTAFF OF HERMESaATOM SYMBOLaFLEUR-DE-LISaOUTLINED ",
    "WHITE STARaTHREE LINES CONVERGING RIGHTdLEFTaWARNING SIGNaHIGH VOLTAGE SIGNaDOUBLED ",
    "FEMALE SIGNbMALE SIGNaINTERLOCKED FEMALE AND MALE SIGNaMALE AND FEMALE SIGNbWITH STROKE ",
    "SIGNdAND MALE AND FEMALE SIGNaVERTICAL MALE WITH STROKE SIGNaHORIZONTAL MALE WITH STROKE ",
    "SIGNaMEDIUM WHITE CIRCLEbBLACK CIRCLEbSMALL WHITE CIRCLEaMARRIAGE SYMBOLaDIVORCE SYMBOL",
    "aUNMARRIED PARTNERSHIP SYMBOLaCOFFINaFUNERAL URNaNEUTERaCERESaPALLASaJUNOaVESTAaCHIRON",
    "aBLACK MOON LILITHaSEXTILEaSEMISEXTILEaQUINCUNXaSESQUIQUADRATEaSOCCER BALLaBASEBALL",
    "aSQUARED KEYaWHITE DRAUGHTS MANcKINGaBLACK DRAUGHTS MANcKINGaSNOWMAN WITHOUT SNOWaSUN ",
    "BEHIND CLOUDaRAINaBLACK SNOWMANaTHUNDER CLOUD AND RAINaTURNED WHITE SHOGI PIECEbBLACK ",
    "SHOGI PIECEaWHITE DIAMOND IN SQUAREaCROSSING LANESaDISABLED CARaOPHIUCHUSaPICKaCAR SLIDING",
    "aHELMET WITH WHITE CROSSaCIRCLED CROSSING LANESaCHAINSaNO ENTRYaALTERNATE ONE-WAY LEFT ",
    "WAY TRAFFICaBLACK TWO-WAY LEFT WAY TRAFFICaWHITE TWO-WAY LEFT WAY TRAFFICaBLACK LEFT LANE ",
    "MERGEaWHITE LEFT LANE MERGEaDRIVE SLOW SIGNaHEAVY WHITE DOWN-POINTING TRIANGLEaLEFT ",
    "CLOSED ENTRYaSQUARED SALTIREaFALLING DIAGONAL IN WHITE CIRCLE IN BLACK SQUAREaBLACK TRUCK",
    "aRESTRICTED LEFT ENTRY-1cENTRY-2aASTRONOMICAL SYMBOL FOR URANUSaHEAVY CIRCLE WITH STROKE ",
    "AND TWO DOTS ABOVEaPENTAGRAMaRIGHT-HANDED INTERLACED PENTAGRAMaLEFT-HANDED INTERLACED ",
    "PENTAGRAMaINVERTED PENTAGRAMaBLACK CROSS ON SHIELDaSHINTO SHRINEaCHURCHaCASTLEaHISTORIC ",
    "SITEaGEAR WITHOUT HUBbWITH HANDLESaMAP SYMBOL FOR LIGHTHOUSEaMOUNTAINaUMBRELLA ON GROUND",
    "aFOUNTAINaFLAG IN HOLEaFERRYaSAILBOATaSQUARE FOUR CORNERSaSKIERaICE SKATEaPERSON WITH BALL",
    "aTENTaJAPANESE BANK SYMBOLaHEADSTONE GRAVEYARD SYMBOLaFUEL PUMPaCUP ON BLACK SQUAREaWHITE ",
    "FLAG WITH HORIZONTAL MIDDLE BLACK STRIPEaBLACK SAFETY SCISSORSaUPPER BLADE SCISSORSaBLACK ",
    "SCISSORSaLOWER BLADE SCISSORSaWHITE SCISSORSbHEAVY CHECK MARKaTELEPHONE LOCATION SIGN",
    "aTAPE DRIVEaAIRPLANEaENVELOPEaRAISED FISTbHANDaVICTORY HANDaWRITING HANDaLOWER RIGHT ",
    "PENCILaPENCILaUPPER RIGHT PENCILaWHITE NIBaBLACK NIBaCHECK MARKaHEAVY CHECK MARK",
    "aMULTIPLICATION XaHEAVY MULTIPLICATION XaBALLOT XaHEAVY BALLOT XaOUTLINED GREEK CROSS",
    "aHEAVY GREEK CROSSaOPEN CENTRE CROSSaHEAVY OPEN CENTRE CROSSaLATIN CROSSaSHADOWED WHITE ",
    "LATIN CROSSaOUTLINED LATIN CROSSaMALTESE CROSSaSTAR OF DAVIDaFOUR TEARDROP-SPOKED ASTERISK",
    "bBALLOON-SPOKED ASTERISKaHEAVY FOUR BALLOON-SPOKED ASTERISKaFOUR CLUB-SPOKED ASTERISK",
    "aBLACK FOUR POINTED STARaWHITE FOUR POINTED STARaSPARKLESaSTRESS OUTLINED WHITE STAR",
    "aCIRCLED WHITE STARaOPEN CENTRE BLACK STARaBLACK CENTRE WHITE STARaOUTLINED BLACK STAR",
    "aHEAVY OUTLINED BLACK STARaPINWHEEL STARaSHADOWED WHITE STARaHEAVY ASTERISKaOPEN CENTRE ",
    "ASTERISKaEIGHT SPOKED ASTERISKbPOINTED BLACK STARcPINWHEEL STARaSIX POINTED BLACK STAR",
    "aEIGHT POINTED RECTILINEAR BLACK STARaHEAVY EIGHT POINTED RECTILINEAR BLACK STARaTWELVE ",
    "POINTED BLACK STARaSIXTEEN POINTED ASTERISKaTEARDROP-SPOKED ASTERISKaOPEN CENTRE ",
    "TEARDROP-SPOKED ASTERISKaHEAVY TEARDROP-SPOKED ASTERISKaSIX PETALLED BLACK AND WHITE ",
    "FLORETTEaBLACK FLORETTEaWHITE FLORETTEaEIGHT PETALLED OUTLINED BLACK FLORETTEaCIRCLED ",
    "OPEN CENTRE EIGHT POINTED STARaHEAVY TEARDROP-SPOKED PINWHEEL ASTERISKaSNOWFLAKEaTIGHT ",
    "TRIFOLIATE SNOWFLAKEaHEAVY CHEVRON SNOWFLAKEaSPARKLEaHEAVY SPARKLEaBALLOON-SPOKED ASTERISK",
    "aEIGHT TEARDROP-SPOKED PROPELLER ASTERISKaHEAVY EIGHT TEARDROP-SPOKED PROPELLER ASTERISK",
    "aCROSS MARKaSHADOWED WHITE CIRCLEaNEGATIVE SQUARED CROSS MARKaLOWER RIGHT DROP-SHADOWED ",
    "WHITE SQUAREaUPPER RIGHT DROP-SHADOWED WHITE SQUAREaLOWER RIGHT SHADOWED WHITE SQUARE",
    "aUPPER RIGHT SHADOWED WHITE SQUAREaBLACK QUESTION MARK ORNAMENTaWHITE QUESTION MARK ",
    "ORNAMENTbEXCLAMATION MARK ORNAMENTaBLACK DIAMOND MINUS WHITE XaHEAVY EXCLAMATION MARK ",
    "SYMBOLaLIGHT VERTICAL BARaMEDIUM VERTICAL BARaHEAVY VERTICAL BARbSINGLE TURNED COMMA ",
    "QUOTATION MARK ORNAMENTcCOMMA QUOTATION MARK ORNAMENTbDOUBLE TURNED COMMA QUOTATION MARK ",
    "ORNAMENTcCOMMA QUOTATION MARK ORNAMENTbLOW SINGLE COMMA QUOTATION MARK ORNAMENTcDOUBLE ",
    "COMMA QUOTATION MARK ORNAMENTaCURVED STEM PARAGRAPH SIGN ORNAMENTaHEAVY EXCLAMATION MARK ",
    "ORNAMENTbHEART EXCLAMATION MARK ORNAMENTbBLACK HEARTaROTATED HEAVY BLACK HEART BULLET",
    "aFLORAL HEARTaROTATED FLORAL HEART BULLETaMEDIUM LEFT PARENTHESIS ORNAMENTbRIGHT ",
    "PARENTHESIS ORNAMENTbFLATTENED LEFT PARENTHESIS ORNAMENTcRIGHT PARENTHESIS ORNAMENT",
    "bLEFT-POINTING ANGLE BRACKET ORNAMENTbRIGHT-POINTING ANGLE BRACKET ORNAMENTaHEAVY ",
    "LEFT-POINTING ANGLE QUOTATION MARK ORNAMENTbRIGHT-POINTING ANGLE QUOTATION MARK ORNAMENT",
    "bLEFT-POINTING ANGLE BRACKET ORNAMENTbRIGHT-POINTING ANGLE BRACKET ORNAMENTaLIGHT LEFT ",
    "TORTOISE SHELL BRACKET ORNAMENTbRIGHT TORTOISE SHELL BRACKET ORNAMENTaMEDIUM LEFT CURLY ",
    "BRACKET ORNAMENTbRIGHT CURLY BRACKET ORNAMENTaDINGBAT NEGATIVE CIRCLED DIGIT ONEeTWOeTHREE",
    "eFOUReFIVEeSIXeSEVENeEIGHTeNINEdNUMBER TENbCIRCLED SANS-SERIF DIGIT ONEeTWOeTHREEeFOUR",
    "eFIVEeSIXeSEVENeEIGHTeNINEdNUMBER TENbNEGATIVE CIRCLED SANS-SERIF DIGIT ONEfTWOfTHREEfFOUR",
    "fFIVEfSIXfSEVENfEIGHTfNINEeNUMBER TENaHEAVY WIDE-HEADED RIGHTWARDS ARROWbPLUS SIGNbMINUS ",
    "SIGNbDIVISION SIGNbSOUTH EAST ARROWbRIGHTWARDS ARROWbNORTH EAST ARROWaDRAFTING POINT ",
    "RIGHTWARDS ARROWaHEAVY ROUND-TIPPED RIGHTWARDS ARROWaTRIANGLE-HEADED RIGHTWARDS ARROW",
    "aHEAVY TRIANGLE-HEADED RIGHTWARDS ARROWaDASHED TRIANGLE-HEADED RIGHTWARDS ARROWaHEAVY ",
    "DASHED TRIANGLE-HEADED RIGHTWARDS ARROWaBLACK RIGHTWARDS ARROWaTHREE-D TOP-LIGHTED ",
    "RIGHTWARDS ARROWHEADbBOTTOM-LIGHTED RIGHTWARDS ARROWHEADaBLACK RIGHTWARDS ARROWHEADaHEAVY ",
    "BLACK CURVED DOWNWARDS AND RIGHTWARDS ARROWdUPWARDS AND RIGHTWARDS ARROWaSQUAT BLACK ",
    "RIGHTWARDS ARROWaHEAVY CONCAVE-POINTED BLACK RIGHTWARDS ARROWaRIGHT-SHADED WHITE ",
    "RIGHTWARDS ARROWaLEFT-SHADED WHITE RIGHTWARDS ARROWaBACK-TILTED SHADOWED WHITE RIGHTWARDS ",
    "ARROWaFRONT-TILTED SHADOWED WHITE RIGHTWARDS ARROWaHEAVY LOWER RIGHT-SHADOWED WHITE ",
    "RIGHTWARDS ARROWbUPPER RIGHT-SHADOWED WHITE RIGHTWARDS ARROWaNOTCHED LOWER RIGHT-SHADOWED ",
    "WHITE RIGHTWARDS ARROWaCURLY LOOPaNOTCHED UPPER RIGHT-SHADOWED WHITE RIGHTWARDS ARROW",
    "aCIRCLED HEAVY WHITE RIGHTWARDS ARROWaWHITE-FEATHERED RIGHTWARDS ARROWaBLACK-FEATHERED ",
    "SOUTH EAST ARROWbRIGHTWARDS ARROWbNORTH EAST ARROWaHEAVY BLACK-FEATHERED SOUTH EAST ARROW",
    "cRIGHTWARDS ARROWcNORTH EAST ARROWaTEARDROP-BARBED RIGHTWARDS ARROWaHEAVY ",
    "TEARDROP-SHANKED RIGHTWARDS ARROWaWEDGE-TAILED RIGHTWARDS ARROWaHEAVY WEDGE-TAILED ",
    "RIGHTWARDS ARROWaOPEN-OUTLINED RIGHTWARDS ARROWaDOUBLE CURLY LOOPaTHREE DIMENSIONAL ANGLE",
    "aWHITE TRIANGLE CONTAINING SMALL WHITE TRIANGLEaPERPENDICULARaOPEN SUBSETbSUPERSETaLEFT ",
    "S-SHAPED BAG DELIMITERaRIGHT S-SHAPED BAG DELIMITERaOR WITH DOT INSIDEaREVERSE SOLIDUS ",
    "PRECEDING SUBSETaSUPERSET PRECEDING SOLIDUSaVERTICAL BAR WITH HORIZONTAL STROKE",
    "aMATHEMATICAL RISING DIAGONALaLONG DIVISIONaMATHEMATICAL FALLING DIAGONALaSQUARED LOGICAL ",
    "ANDcORaWHITE DIAMOND WITH CENTRED DOTaAND WITH DOTaELEMENT OF OPENING UPWARDSaLOWER RIGHT ",
    "CORNER WITH DOTaUPPER LEFT CORNER WITH DOTaLEFT OUTER JOINaRIGHT OUTER JOINaFULL OUTER ",
    "JOINaLARGE UP TACKbDOWN TACKaLEFT AND RIGHT DOUBLE TURNSTILEdTACKbMULTIMAPaLONG RIGHT TACK",
    "bLEFT TACKaUP TACK WITH CIRCLE ABOVEaLOZENGE DIVIDED BY HORIZONTAL RULEaWHITE ",
    "CONCAVE-SIDED DIAMONDdWITH LEFTWARDS TICKeRIGHTWARDS TICKbSQUARE WITH LEFTWARDS TICK",
    "dRIGHTWARDS TICKaMATHEMATICAL LEFT WHITE SQUARE BRACKETbRIGHT WHITE SQUARE BRACKETbLEFT ",
    "ANGLE BRACKETbRIGHT ANGLE BRACKETbLEFT DOUBLE ANGLE BRACKETbRIGHT DOUBLE ANGLE BRACKET",
    "bLEFT WHITE TORTOISE SHELL BRACKETbRIGHT WHITE TORTOISE SHELL BRACKETbLEFT FLATTENED ",
    "PARENTHESISbRIGHT FLATTENED PARENTHESISaUPWARDS QUADRUPLE ARROWaDOWNWARDS QUADRUPLE ARROW",
    "aANTICLOCKWISE GAPPED CIRCLE ARROWaCLOCKWISE GAPPED CIRCLE ARROWaRIGHT ARROW WITH CIRCLED ",
    "PLUSaLONG LEFTWARDS ARROWbRIGHTWARDS ARROWbLEFT RIGHT ARROWbLEFTWARDS DOUBLE ARROW",
    "bRIGHTWARDS DOUBLE ARROWbLEFT RIGHT DOUBLE ARROWbLEFTWARDS ARROW FROM BARbRIGHTWARDS ",
    "ARROW FROM BARbLEFTWARDS DOUBLE ARROW FROM BARbRIGHTWARDS DOUBLE ARROW FROM BARcSQUIGGLE ",
    "ARROWaBRAILLE PATTERN BLANKcDOTS-1cDOTS-2cDOTS-12cDOTS-3cDOTS-13cDOTS-23cDOTS-123cDOTS-4",
    "cDOTS-14cDOTS-24cDOTS-124cDOTS-34cDOTS-134cDOTS-234cDOTS-1234cDOTS-5cDOTS-15cDOTS-25",
    "cDOTS-125cDOTS-35cDOTS-135cDOTS-235cDOTS-1235cDOTS-45cDOTS-145cDOTS-245cDOTS-1245cDOTS-345",
    "cDOTS-1345cDOTS-2345cDOTS-12345cDOTS-6cDOTS-16cDOTS-26cDOTS-126cDOTS-36cDOTS-136cDOTS-236",
    "cDOTS-1236cDOTS-46cDOTS-146cDOTS-246cDOTS-1246cDOTS-346cDOTS-1346cDOTS-2346cDOTS-12346",
    "cDOTS-56cDOTS-156cDOTS-256cDOTS-1256cDOTS-356cDOTS-1356cDOTS-2356cDOTS-12356cDOTS-456",
    "cDOTS-1456cDOTS-2456cDOTS-12456cDOTS-3456cDOTS-13456cDOTS-23456cDOTS-123456cDOTS-7cDOTS-17",
    "cDOTS-27cDOTS-127cDOTS-37cDOTS-137cDOTS-237cDOTS-1237cDOTS-47cDOTS-147cDOTS-247cDOTS-1247",
    "cDOTS-347cDOTS-1347cDOTS-2347cDOTS-12347cDOTS-57cDOTS-157cDOTS-257cDOTS-1257cDOTS-357",
    "cDOTS-1357cDOTS-2357cDOTS-12357cDOTS-457cDOTS-1457cDOTS-2457cDOTS-12457cDOTS-3457",
    "cDOTS-13457cDOTS-23457cDOTS-123457cDOTS-67cDOTS-167cDOTS-267cDOTS-1267cDOTS-367cDOTS-1367",
    "cDOTS-2367cDOTS-12367cDOTS-467cDOTS-1467cDOTS-2467cDOTS-12467cDOTS-3467cDOTS-13467",
    "cDOTS-23467cDOTS-123467cDOTS-567cDOTS-1567cDOTS-2567cDOTS-12567cDOTS-3567cDOTS-13567",
    "cDOTS-23567cDOTS-123567cDOTS-4567cDOTS-14567cDOTS-24567cDOTS-124567cDOTS-34567cDOTS-134567",
    "cDOTS-234567cDOTS-1234567cDOTS-8cDOTS-18cDOTS-28cDOTS-128cDOTS-38cDOTS-138cDOTS-238",
    "cDOTS-1238cDOTS-48cDOTS-148cDOTS-248cDOTS-1248cDOTS-348cDOTS-1348cDOTS-2348cDOTS-12348",
    "cDOTS-58cDOTS-158cDOTS-258cDOTS-1258cDOTS-358cDOTS-1358cDOTS-2358cDOTS-12358cDOTS-458",
    "cDOTS-1458cDOTS-2458cDOTS-12458cDOTS-3458cDOTS-13458cDOTS-23458cDOTS-123458cDOTS-68",
    "cDOTS-168cDOTS-268cDOTS-1268cDOTS-368cDOTS-1368cDOTS-2368cDOTS-12368cDOTS-468cDOTS-1468",
    "cDOTS-2468cDOTS-12468cDOTS-3468cDOTS-13468cDOTS-23468cDOTS-123468cDOTS-568cDOTS-1568",
    "cDOTS-2568cDOTS-12568cDOTS-3568cDOTS-13568cDOTS-23568cDOTS-123568cDOTS-4568cDOTS-14568",
    "cDOTS-24568cDOTS-124568cDOTS-34568cDOTS-134568cDOTS-234568cDOTS-1234568cDOTS-78cDOTS-178",
    "cDOTS-278cDOTS-1278cDOTS-378cDOTS-1378cDOTS-2378cDOTS-12378cDOTS-478cDOTS-1478cDOTS-2478",
    "cDOTS-12478cDOTS-3478cDOTS-13478cDOTS-23478cDOTS-123478cDOTS-578cDOTS-1578cDOTS-2578",
    "cDOTS-12578cDOTS-3578cDOTS-13578cDOTS-23578cDOTS-123578cDOTS-4578cDOTS-14578cDOTS-24578",
    "cDOTS-124578cDOTS-34578cDOTS-134578cDOTS-234578cDOTS-1234578cDOTS-678cDOTS-1678cDOTS-2678",
    "cDOTS-12678cDOTS-3678cDOTS-13678cDOTS-23678cDOTS-123678cDOTS-4678cDOTS-14678cDOTS-24678",
    "cDOTS-124678cDOTS-34678cDOTS-134678cDOTS-234678cDOTS-1234678cDOTS-5678cDOTS-15678",
    "cDOTS-25678cDOTS-125678cDOTS-35678cDOTS-135678cDOTS-235678cDOTS-1235678cDOTS-45678",
    "cDOTS-145678cDOTS-245678cDOTS-1245678cDOTS-345678cDOTS-1345678cDOTS-2345678cDOTS-12345678",
    "aRIGHTWARDS TWO-HEADED ARROW WITH VERTICAL STROKEeDOUBLE VERTICAL STROKEaLEFTWARDS DOUBLE ",
    "ARROW WITH VERTICAL STROKEaRIGHTWARDS DOUBLE ARROW WITH VERTICAL STROKEaLEFT RIGHT DOUBLE ",
    "ARROW WITH VERTICAL STROKEaRIGHTWARDS TWO-HEADED ARROW FROM BARaLEFTWARDS DOUBLE ARROW ",
    "FROM BARaRIGHTWARDS DOUBLE ARROW FROM BARaDOWNWARDS ARROW WITH HORIZONTAL STROKEaUPWARDS ",
    "ARROW WITH HORIZONTAL STROKEbTRIPLE ARROWaDOWNWARDS TRIPLE ARROWaLEFTWARDS DOUBLE DASH ",
    "ARROWaRIGHTWARDS DOUBLE DASH ARROWaLEFTWARDS TRIPLE DASH ARROWaRIGHTWARDS TRIPLE DASH ",
    "ARROWbTWO-HEADED TRIPLE DASH ARROWbARROW WITH DOTTED STEMaUPWARDS ARROW TO BARaDOWNWARDS ",
    "ARROW TO BARaRIGHTWARDS ARROW WITH TAIL WITH VERTICAL STROKEfDOUBLE VERTICAL STROKE",
    "bTWO-HEADED ARROW WITH TAILfWITH VERTICAL STROKEgDOUBLE VERTICAL STROKEaLEFTWARDS ",
    "ARROW-TAILaRIGHTWARDS ARROW-TAILaLEFTWARDS DOUBLE ARROW-TAILaRIGHTWARDS DOUBLE ARROW-TAIL",
    "aLEFTWARDS ARROW TO BLACK DIAMONDaRIGHTWARDS ARROW TO BLACK DIAMONDaLEFTWARDS ARROW FROM ",
    "BAR TO BLACK DIAMONDaRIGHTWARDS ARROW FROM BAR TO BLACK DIAMONDaNORTH WEST AND SOUTH EAST ",
    "ARROWbEAST AND SOUTH WEST ARROWbWEST ARROW WITH HOOKbEAST ARROW WITH HOOKaSOUTH EAST ",
    "ARROW WITH HOOKbWEST ARROW WITH HOOKaNORTH WEST ARROW AND NORTH EAST ARROWbEAST ARROW AND ",
    "SOUTH EAST ARROWaSOUTH EAST ARROW AND SOUTH WEST ARROWbWEST ARROW AND NORTH WEST ARROW",
    "aRISING DIAGONAL CROSSING FALLING DIAGONALaFALLING DIAGONAL CROSSING RISING DIAGONAL",
    "aSOUTH EAST ARROW CROSSING NORTH EAST ARROWaNORTH EAST ARROW CROSSING SOUTH EAST ARROW",
    "aFALLING DIAGONAL CROSSING NORTH EAST ARROWaRISING DIAGONAL CROSSING SOUTH EAST ARROW",
    "aNORTH EAST ARROW CROSSING NORTH WEST ARROWbWEST ARROW CROSSING NORTH EAST ARROWaWAVE ",
    "ARROW POINTING DIRECTLY RIGHTaARROW POINTING RIGHTWARDS THEN CURVING UPWARDSfDOWNWARDS",
    "cDOWNWARDS THEN CURVING LEFTWARDSfRIGHTWARDSaRIGHT-SIDE ARC CLOCKWISE ARROWaLEFT-SIDE ARC ",
    "ANTICLOCKWISE ARROWaTOP ARC ANTICLOCKWISE ARROWaBOTTOM ARC ANTICLOCKWISE ARROWaTOP ARC ",
    "CLOCKWISE ARROW WITH MINUScANTICLOCKWISE ARROW WITH PLUSaLOWER RIGHT SEMICIRCULAR ",
    "CLOCKWISE ARROWbLEFT SEMICIRCULAR ANTICLOCKWISE ARROWaANTICLOCKWISE CLOSED CIRCLE ARROW",
    "aCLOCKWISE CLOSED CIRCLE ARROWaRIGHTWARDS ARROW ABOVE SHORT LEFTWARDS ARROWaLEFTWARDS ",
    "ARROW ABOVE SHORT RIGHTWARDS ARROWaSHORT RIGHTWARDS ARROW ABOVE LEFTWARDS ARROW",
    "aRIGHTWARDS ARROW WITH PLUS BELOWaLEFTWARDS ARROW WITH PLUS BELOWaRIGHTWARDS ARROW ",
    "THROUGH XaLEFT RIGHT ARROW THROUGH SMALL CIRCLEaUPWARDS TWO-HEADED ARROW FROM SMALL CIRCLE",
    "aLEFT BARB UP RIGHT BARB DOWN HARPOONcDOWN RIGHT BARB UP HARPOONaUP BARB RIGHT DOWN BARB ",
    "LEFT HARPOONcLEFT DOWN BARB RIGHT HARPOONaLEFT BARB UP RIGHT BARB UP HARPOONaUP BARB ",
    "RIGHT DOWN BARB RIGHT HARPOONaLEFT BARB DOWN RIGHT BARB DOWN HARPOONaUP BARB LEFT DOWN ",
    "BARB LEFT HARPOONaLEFTWARDS HARPOON WITH BARB UP TO BARaRIGHTWARDS HARPOON WITH BARB UP ",
    "TO BARaUPWARDS HARPOON WITH BARB RIGHT TO BARaDOWNWARDS HARPOON WITH BARB RIGHT TO BAR",
    "aLEFTWARDS HARPOON WITH BARB DOWN TO BARaRIGHTWARDS HARPOON WITH BARB DOWN TO BARaUPWARDS ",
    "HARPOON WITH BARB LEFT TO BARaDOWNWARDS HARPOON WITH BARB LEFT TO BARaLEFTWARDS HARPOON ",
    "WITH BARB UP FROM BARaRIGHTWARDS HARPOON WITH BARB UP FROM BARaUPWARDS HARPOON WITH BARB ",
    "RIGHT FROM BARaDOWNWARDS HARPOON WITH BARB RIGHT FROM BARaLEFTWARDS HARPOON WITH BARB ",
    "DOWN FROM BARaRIGHTWARDS HARPOON WITH BARB DOWN FROM BARaUPWARDS HARPOON WITH BARB LEFT ",
    "FROM BARaDOWNWARDS HARPOON WITH BARB LEFT FROM BARaLEFTWARDS HARPOON WITH BARB UP ABOVE ",
    "LEFTWARDS HARPOON WITH BARB DOWNaUPWARDS HARPOON WITH BARB LEFT BESIDE UPWARDS HARPOON ",
    "WITH BARB RIGHTaRIGHTWARDS HARPOON WITH BARB UP ABOVE RIGHTWARDS HARPOON WITH BARB DOWN",
    "aDOWNWARDS HARPOON WITH BARB LEFT BESIDE DOWNWARDS HARPOON WITH BARB RIGHTaLEFTWARDS ",
    "HARPOON WITH BARB UP ABOVE RIGHTWARDS HARPOON WITH BARB UPeDOWN ABOVE RIGHTWARDS HARPOON ",
    "WITH BARB DOWNaRIGHTWARDS HARPOON WITH BARB UP ABOVE LEFTWARDS HARPOON WITH BARB UPeDOWN ",
    "ABOVE LEFTWARDS HARPOON WITH BARB DOWNaLEFTWARDS HARPOON WITH BARB UP ABOVE LONG DASH",
    "eDOWN BELOW LONG DASHaRIGHTWARDS HARPOON WITH BARB UP ABOVE LONG DASHeDOWN BELOW LONG DASH",
    "aUPWARDS HARPOON WITH BARB LEFT BESIDE DOWNWARDS HARPOON WITH BARB RIGHTaDOWNWARDS ",
    "HARPOON WITH BARB LEFT BESIDE UPWARDS HARPOON WITH BARB RIGHTaRIGHT DOUBLE ARROW WITH ",
    "ROUNDED HEADaEQUALS SIGN ABOVE RIGHTWARDS ARROWaTILDE OPERATOR ABOVE RIGHTWARDS ARROW",
    "aLEFTWARDS ARROW ABOVE TILDE OPERATORaRIGHTWARDS ARROW ABOVE TILDE OPERATORdALMOST EQUAL ",
    "TOaLESS-THAN ABOVE LEFTWARDS ARROWaLEFTWARDS ARROW THROUGH LESS-THANaGREATER-THAN ABOVE ",
    "RIGHTWARDS ARROWaSUBSET ABOVE RIGHTWARDS ARROWaLEFTWARDS ARROW THROUGH SUBSETaSUPERSET ",
    "ABOVE LEFTWARDS ARROWaLEFT FISH TAILaRIGHT FISH TAILaUP FISH TAILaDOWN FISH TAILaTRIPLE ",
    "VERTICAL BAR DELIMITERaZ NOTATION SPOTcTYPE COLONaLEFT WHITE CURLY BRACKETaRIGHT WHITE ",
    "CURLY BRACKETaLEFT WHITE PARENTHESISaRIGHT WHITE PARENTHESISaZ NOTATION LEFT IMAGE BRACKET",
    "cRIGHT IMAGE BRACKETcLEFT BINDING BRACKETcRIGHT BINDING BRACKETaLEFT SQUARE BRACKET WITH ",
    "UNDERBARaRIGHT SQUARE BRACKET WITH UNDERBARaLEFT SQUARE BRACKET WITH TICK IN TOP CORNER",
    "aRIGHT SQUARE BRACKET WITH TICK IN BOTTOM CORNERaLEFT SQUARE BRACKET WITH TICK IN BOTTOM ",
    "CORNERaRIGHT SQUARE BRACKET WITH TICK IN TOP CORNERaLEFT ANGLE BRACKET WITH DOTaRIGHT ",
    "ANGLE BRACKET WITH DOTaLEFT ARC LESS-THAN BRACKETaRIGHT ARC GREATER-THAN BRACKETaDOUBLE ",
    "LEFT ARC GREATER-THAN BRACKETbRIGHT ARC LESS-THAN BRACKETaLEFT BLACK TORTOISE SHELL ",
    "BRACKETaRIGHT BLACK TORTOISE SHELL BRACKETaDOTTED FENCEaVERTICAL ZIGZAG LINEaMEASURED ",
    "ANGLE OPENING LEFTaRIGHT ANGLE VARIANT WITH SQUAREaMEASURED RIGHT ANGLE WITH DOTaANGLE ",
    "WITH S INSIDEaACUTE ANGLEaSPHERICAL ANGLE OPENING LEFTdUPaTURNED ANGLEaREVERSED ANGLE",
    "aANGLE WITH UNDERBARaREVERSED ANGLE WITH UNDERBARaOBLIQUE ANGLE OPENING UPdDOWNaMEASURED ",
    "ANGLE WITH OPEN ARM ENDING IN ARROW POINTING UP AND RIGHTlLEFTjDOWN AND RIGHTlLEFTjRIGHT ",
    "AND UPjLEFT AND UPjRIGHT AND DOWNjLEFT AND DOWNaREVERSED EMPTY SETaEMPTY SET WITH OVERBAR",
    "dSMALL CIRCLE ABOVEdRIGHT ARROW ABOVEdLEFT ARROW ABOVEaCIRCLE WITH HORIZONTAL BARaCIRCLED ",
    "VERTICAL BARbPARALLELbREVERSE SOLIDUSbPERPENDICULARaCIRCLE DIVIDED BY HORIZONTAL BAR AND ",
    "TOP HALF DIVIDED BY VERTICAL BARbWITH SUPERIMPOSED XaCIRCLED ANTICLOCKWISE-ROTATED ",
    "DIVISION SIGNaUP ARROW THROUGH CIRCLEaCIRCLED WHITE BULLETbBULLETbLESS-THANbGREATER-THAN",
    "aCIRCLE WITH SMALL CIRCLE TO THE RIGHTcTWO HORIZONTAL STROKES TO THE RIGHTaSQUARED RISING ",
    "DIAGONAL SLASHbFALLING DIAGONAL SLASHbASTERISKbSMALL CIRCLEbSQUAREaTWO JOINED SQUARES",
    "aTRIANGLE WITH DOT ABOVEcUNDERBARaS IN TRIANGLEaTRIANGLE WITH SERIFS AT BOTTOMaRIGHT ",
    "TRIANGLE ABOVE LEFT TRIANGLEaLEFT TRIANGLE BESIDE VERTICAL BARaVERTICAL BAR BESIDE RIGHT ",
    "TRIANGLEaBOWTIE WITH LEFT HALF BLACKcRIGHT HALF BLACKaBLACK BOWTIEaTIMES WITH LEFT HALF ",
    "BLACKcRIGHT HALF BLACKaWHITE HOURGLASSaBLACK HOURGLASSaLEFT WIGGLY FENCEaRIGHT WIGGLY ",
    "FENCEaLEFT DOUBLE WIGGLY FENCEaRIGHT DOUBLE WIGGLY FENCEaINCOMPLETE INFINITYaTIE OVER ",
    "INFINITYaINFINITY NEGATED WITH VERTICAL BARaDOUBLE-ENDED MULTIMAPaSQUARE WITH CONTOURED ",
    "OUTLINEaINCREASES ASaSHUFFLE PRODUCTaEQUALS SIGN AND SLANTED PARALLELfWITH TILDE ABOVE",
    "aIDENTICAL TO AND SLANTED PARALLELaGLEICH STARKaTHERMODYNAMICaDOWN-POINTING TRIANGLE WITH ",
    "LEFT HALF BLACKdRIGHT HALF BLACKaBLACK DIAMOND WITH DOWN ARROWbLOZENGEaWHITE CIRCLE WITH ",
    "DOWN ARROWaBLACK CIRCLE WITH DOWN ARROWaERROR-BARRED WHITE SQUAREbBLACK SQUAREbWHITE ",
    "DIAMONDbBLACK DIAMONDbWHITE CIRCLEbBLACK CIRCLEaRULE-DELAYEDaREVERSE SOLIDUS OPERATOR",
    "aSOLIDUS WITH OVERBARaREVERSE SOLIDUS WITH HORIZONTAL STROKEaBIG SOLIDUSbREVERSE SOLIDUS",
    "aDOUBLE PLUSaTRIPLE PLUSaLEFT-POINTING CURVED ANGLE BRACKETaRIGHT-POINTING CURVED ANGLE ",
    "BRACKETaTINYaMINYaN-ARY CIRCLED DOT OPERATORcPLUS OPERATORcTIMES OPERATORbUNION OPERATOR ",
    "WITH DOTePLUSbSQUARE INTERSECTION OPERATORcUNION OPERATORaTWO LOGICAL AND OPERATORcOR ",
    "OPERATORaN-ARY TIMES OPERATORaMODULO TWO SUMaSUMMATION WITH INTEGRALaQUADRUPLE INTEGRAL ",
    "OPERATORaFINITE PART INTEGRALaINTEGRAL WITH DOUBLE STROKEbAVERAGE WITH SLASHaCIRCULATION ",
    "FUNCTIONaANTICLOCKWISE INTEGRATIONaLINE INTEGRATION WITH RECTANGULAR PATH AROUND POLE",
    "dSEMICIRCULAR PATH AROUND POLEcNOT INCLUDING THE POLEaINTEGRAL AROUND A POINT OPERATOR",
    "aQUATERNION INTEGRAL OPERATORaINTEGRAL WITH LEFTWARDS ARROW WITH HOOKcTIMES SIGN",
    "cINTERSECTIONcUNIONcOVERBARcUNDERBARaJOINaLARGE LEFT TRIANGLE OPERATORaZ NOTATION SCHEMA ",
    "COMPOSITIONdPIPINGdPROJECTIONaPLUS SIGN WITH SMALL CIRCLE ABOVEdCIRCUMFLEX ACCENT ABOVE",
    "dTILDE ABOVEdDOT BELOWdTILDE BELOWdSUBSCRIPT TWOdBLACK TRIANGLEaMINUS SIGN WITH COMMA ",
    "ABOVEdDOT BELOWdFALLING DOTSdRISING DOTSaPLUS SIGN IN LEFT HALF CIRCLEdRIGHT HALF CIRCLE",
    "aVECTOR OR CROSS PRODUCTaMULTIPLICATION SIGN WITH DOT ABOVEdUNDERBARaSEMIDIRECT PRODUCT ",
    "WITH BOTTOM CLOSEDaSMASH PRODUCTaMULTIPLICATION SIGN IN LEFT HALF CIRCLEdRIGHT HALF CIRCLE",
    "aCIRCLED MULTIPLICATION SIGN WITH CIRCUMFLEX ACCENTaMULTIPLICATION SIGN IN DOUBLE CIRCLE",
    "aCIRCLED DIVISION SIGNaPLUS SIGN IN TRIANGLEaMINUS SIGN IN TRIANGLEaMULTIPLICATION SIGN ",
    "IN TRIANGLEaINTERIOR PRODUCTaRIGHTHAND INTERIOR PRODUCTaZ NOTATION RELATIONAL COMPOSITION",
    "aAMALGAMATION OR COPRODUCTaINTERSECTION WITH DOTaUNION WITH MINUS SIGNcOVERBAR",
    "aINTERSECTION WITH OVERBARcLOGICAL ANDaUNION WITH LOGICAL ORbABOVE INTERSECTION",
    "aINTERSECTION ABOVE UNIONaUNION ABOVE BAR ABOVE INTERSECTIONaINTERSECTION ABOVE BAR ABOVE ",
    "UNIONaUNION BESIDE AND JOINED WITH UNIONaINTERSECTION BESIDE AND JOINED WITH INTERSECTION",
    "aCLOSED UNION WITH SERIFSbINTERSECTION WITH SERIFSaDOUBLE SQUARE INTERSECTIONcUNION",
    "aCLOSED UNION WITH SERIFS AND SMASH PRODUCTaLOGICAL AND WITH DOT ABOVEbOR WITH DOT ABOVE",
    "aDOUBLE LOGICAL ANDcORaTWO INTERSECTING LOGICAL ANDdORaSLOPING LARGE ORcANDaLOGICAL OR ",
    "OVERLAPPING LOGICAL ANDbAND WITH MIDDLE STEMbOR WITH MIDDLE STEMbAND WITH HORIZONTAL DASH",
    "bOR WITH HORIZONTAL DASHbAND WITH DOUBLE OVERBARdUNDERBARdDOUBLE UNDERBARaSMALL VEE WITH ",
    "UNDERBARaLOGICAL OR WITH DOUBLE OVERBAReUNDERBARaZ NOTATION DOMAIN ANTIRESTRICTIONcRANGE ",
    "ANTIRESTRICTIONaEQUALS SIGN WITH DOT BELOWaIDENTICAL WITH DOT ABOVEaTRIPLE HORIZONTAL BAR ",
    "WITH DOUBLE VERTICAL STROKEeTRIPLE VERTICAL STROKEaTILDE OPERATOR WITH DOT ABOVEdRISING ",
    "DOTSaSIMILAR MINUS SIMILARaCONGRUENT WITH DOT ABOVEaEQUALS WITH ASTERISKaALMOST EQUAL TO ",
    "WITH CIRCUMFLEX ACCENTaAPPROXIMATELY EQUAL OR EQUAL TOaEQUALS SIGN ABOVE PLUS SIGNaPLUS ",
    "SIGN ABOVE EQUALS SIGNaEQUALS SIGN ABOVE TILDE OPERATORaDOUBLE COLON EQUALaTWO ",
    "CONSECUTIVE EQUALS SIGNSaTHREE CONSECUTIVE EQUALS SIGNSaEQUALS SIGN WITH TWO DOTS ABOVE ",
    "AND TWO DOTS BELOWaEQUIVALENT WITH FOUR DOTS ABOVEaLESS-THAN WITH CIRCLE INSIDE",
    "aGREATER-THAN WITH CIRCLE INSIDEaLESS-THAN WITH QUESTION MARK ABOVEaGREATER-THAN WITH ",
    "QUESTION MARK ABOVEaLESS-THAN OR SLANTED EQUAL TOaGREATER-THAN OR SLANTED EQUAL TO",
    "aLESS-THAN OR SLANTED EQUAL TO WITH DOT INSIDEaGREATER-THAN OR SLANTED EQUAL TO WITH DOT ",
    "INSIDEaLESS-THAN OR SLANTED EQUAL TO WITH DOT ABOVEaGREATER-THAN OR SLANTED EQUAL TO WITH ",
    "DOT ABOVEaLESS-THAN OR SLANTED EQUAL TO WITH DOT ABOVE RIGHTaGREATER-THAN OR SLANTED ",
    "EQUAL TO WITH DOT ABOVE LEFTaLESS-THAN OR APPROXIMATEaGREATER-THAN OR APPROXIMATE",
    "aLESS-THAN AND SINGLE-LINE NOT EQUAL TOaGREATER-THAN AND SINGLE-LINE NOT EQUAL TO",
    "aLESS-THAN AND NOT APPROXIMATEaGREATER-THAN AND NOT APPROXIMATEaLESS-THAN ABOVE ",
    "DOUBLE-LINE EQUAL ABOVE GREATER-THANaGREATER-THAN ABOVE DOUBLE-LINE EQUAL ABOVE LESS-THAN",
    "aLESS-THAN ABOVE SIMILAR OR EQUALaGREATER-THAN ABOVE SIMILAR OR EQUALaLESS-THAN ABOVE ",
    "SIMILAR ABOVE GREATER-THANaGREATER-THAN ABOVE SIMILAR ABOVE LESS-THANaLESS-THAN ABOVE ",
    "GREATER-THAN ABOVE DOUBLE-LINE EQUALaGREATER-THAN ABOVE LESS-THAN ABOVE DOUBLE-LINE EQUAL",
    "aLESS-THAN ABOVE SLANTED EQUAL ABOVE GREATER-THAN ABOVE SLANTED EQUALaGREATER-THAN ABOVE ",
    "SLANTED EQUAL ABOVE LESS-THAN ABOVE SLANTED EQUALaSLANTED EQUAL TO OR LESS-THAN",
    "eGREATER-THANeLESS-THAN WITH DOT INSIDEeGREATER-THAN WITH DOT INSIDEaDOUBLE-LINE EQUAL TO ",
    "OR LESS-THANeGREATER-THANbSLANTED EQUAL TO OR LESS-THANfGREATER-THANaSIMILAR OR LESS-THAN",
    "cGREATER-THANbABOVE LESS-THAN ABOVE EQUALS SIGNcGREATER-THAN ABOVE EQUALS SIGNaDOUBLE ",
    "NESTED LESS-THANcGREATER-THANcLESS-THAN WITH UNDERBARaGREATER-THAN OVERLAPPING LESS-THAN",
    "bBESIDE LESS-THANaLESS-THAN CLOSED BY CURVEaGREATER-THAN CLOSED BY CURVEaLESS-THAN CLOSED ",
    "BY CURVE ABOVE SLANTED EQUALaGREATER-THAN CLOSED BY CURVE ABOVE SLANTED EQUALaSMALLER THAN",
    "aLARGER THANaSMALLER THAN OR EQUAL TOaLARGER THAN OR EQUAL TOaEQUALS SIGN WITH BUMPY ABOVE",
    "aPRECEDES ABOVE SINGLE-LINE EQUALS SIGNaSUCCEEDS ABOVE SINGLE-LINE EQUALS SIGNaPRECEDES ",
    "ABOVE SINGLE-LINE NOT EQUAL TOaSUCCEEDS ABOVE SINGLE-LINE NOT EQUAL TOaPRECEDES ABOVE ",
    "EQUALS SIGNaSUCCEEDS ABOVE EQUALS SIGNaPRECEDES ABOVE NOT EQUAL TOaSUCCEEDS ABOVE NOT ",
    "EQUAL TOaPRECEDES ABOVE ALMOST EQUAL TOaSUCCEEDS ABOVE ALMOST EQUAL TOaPRECEDES ABOVE NOT ",
    "ALMOST EQUAL TOaSUCCEEDS ABOVE NOT ALMOST EQUAL TOaDOUBLE PRECEDESbSUCCEEDSaSUBSET WITH ",
    "DOTaSUPERSET WITH DOTaSUBSET WITH PLUS SIGN BELOWaSUPERSET WITH PLUS SIGN BELOWaSUBSET ",
    "WITH MULTIPLICATION SIGN BELOWaSUPERSET WITH MULTIPLICATION SIGN BELOWaSUBSET OF OR EQUAL ",
    "TO WITH DOT ABOVEaSUPERSET OF OR EQUAL TO WITH DOT ABOVEaSUBSET OF ABOVE EQUALS SIGN",
    "aSUPERSET OF ABOVE EQUALS SIGNaSUBSET OF ABOVE TILDE OPERATORaSUPERSET OF ABOVE TILDE ",
    "OPERATORaSUBSET OF ABOVE ALMOST EQUAL TOaSUPERSET OF ABOVE ALMOST EQUAL TOaSUBSET OF ",
    "ABOVE NOT EQUAL TOaSUPERSET OF ABOVE NOT EQUAL TOaSQUARE LEFT OPEN BOX OPERATORbRIGHT ",
    "OPEN BOX OPERATORaCLOSED SUBSETbSUPERSETbSUBSET OR EQUAL TObSUPERSET OR EQUAL TOaSUBSET ",
    "ABOVE SUPERSETaSUPERSET ABOVE SUBSETaSUBSET ABOVE SUBSETaSUPERSET ABOVE SUPERSETbBESIDE ",
    "SUBSETcAND JOINED BY DASH WITH SUBSETaELEMENT OF OPENING DOWNWARDSaPITCHFORK WITH TEE TOP",
    "aTRANSVERSAL INTERSECTIONaFORKINGaNONFORKINGaSHORT LEFT TACKbDOWN TACKbUP TACK",
    "aPERPENDICULAR WITH SaVERTICAL BAR TRIPLE RIGHT TURNSTILEaDOUBLE VERTICAL BAR LEFT ",
    "TURNSTILEaVERTICAL BAR DOUBLE LEFT TURNSTILEaDOUBLE VERTICAL BAR DOUBLE LEFT TURNSTILE",
    "aLONG DASH FROM LEFT MEMBER OF DOUBLE VERTICALaSHORT DOWN TACK WITH OVERBARbUP TACK WITH ",
    "UNDERBARdABOVE SHORT DOWN TACKaDOUBLE DOWN TACKbUP TACKbSTROKE NOT SIGNaREVERSED DOUBLE ",
    "STROKE NOT SIGNaDOES NOT DIVIDE WITH REVERSED NEGATION SLASHaVERTICAL LINE WITH CIRCLE ",
    "ABOVEeBELOWaDOWN TACK WITH CIRCLE BELOWaPARALLEL WITH HORIZONTAL STROKEcTILDE OPERATOR",
    "aTRIPLE VERTICAL BAR BINARY RELATIONdWITH HORIZONTAL STROKEbCOLON OPERATORbNESTED ",
    "LESS-THANcGREATER-THANaDOUBLE-LINE SLANTED LESS-THAN OR EQUAL TOcGREATER-THAN OR EQUAL TO",
    "aTRIPLE SOLIDUS BINARY RELATIONaLARGE TRIPLE VERTICAL BAR OPERATORaDOUBLE SOLIDUS OPERATOR",
    "aWHITE VERTICAL BARaN-ARY WHITE VERTICAL BARaNORTH EAST WHITE ARROWbWEST WHITE ARROW",
    "aSOUTH EAST WHITE ARROWbWEST WHITE ARROWaLEFT RIGHT WHITE ARROWaLEFTWARDS BLACK ARROW",
    "aUPWARDS BLACK ARROWaDOWNWARDS BLACK ARROWaNORTH EAST BLACK ARROWbWEST BLACK ARROWaSOUTH ",
    "EAST BLACK ARROWbWEST BLACK ARROWaLEFT RIGHT BLACK ARROWaUP DOWN BLACK ARROWaRIGHTWARDS ",
    "ARROW WITH TIP DOWNWARDSeUPWARDSaLEFTWARDS ARROW WITH TIP DOWNWARDSeUPWARDSaSQUARE WITH ",
    "TOP HALF BLACKcBOTTOM HALF BLACKcUPPER RIGHT DIAGONAL HALF BLACKcLOWER LEFT DIAGONAL HALF ",
    "BLACKaDIAMOND WITH LEFT HALF BLACKcRIGHT HALF BLACKcTOP HALF BLACKcBOTTOM HALF BLACK",
    "aDOTTED SQUAREaBLACK LARGE SQUAREaWHITE LARGE SQUAREaBLACK VERY SMALL SQUAREaWHITE VERY ",
    "SMALL SQUAREaBLACK PENTAGONaWHITE PENTAGONbHEXAGONaBLACK HEXAGONaHORIZONTAL BLACK HEXAGON",
    "aBLACK LARGE CIRCLEbMEDIUM DIAMONDaWHITE MEDIUM DIAMONDaBLACK MEDIUM LOZENGEaWHITE MEDIUM ",
    "LOZENGEaBLACK SMALL DIAMONDcLOZENGEaWHITE SMALL LOZENGEaBLACK HORIZONTAL ELLIPSEaWHITE ",
    "HORIZONTAL ELLIPSEaBLACK VERTICAL ELLIPSEaWHITE VERTICAL ELLIPSEaLEFT ARROW WITH SMALL ",
    "CIRCLEaTHREE LEFTWARDS ARROWSaLEFT ARROW WITH CIRCLED PLUSaLONG LEFTWARDS SQUIGGLE ARROW",
    "aLEFTWARDS TWO-HEADED ARROW WITH VERTICAL STROKEeDOUBLE VERTICAL STROKEdFROM BARcTRIPLE ",
    "DASH ARROWbARROW WITH DOTTED STEMdTAIL WITH VERTICAL STROKEfDOUBLE VERTICAL STROKE",
    "bTWO-HEADED ARROW WITH TAILfWITH VERTICAL STROKEgDOUBLE VERTICAL STROKEbARROW THROUGH X",
    "aWAVE ARROW POINTING DIRECTLY LEFTaEQUALS SIGN ABOVE LEFTWARDS ARROWaREVERSE TILDE ",
    "OPERATOR ABOVE LEFTWARDS ARROWaLEFTWARDS ARROW ABOVE REVERSE ALMOST EQUAL TOaRIGHTWARDS ",
    "ARROW THROUGH GREATER-THANdSUPERSETaLEFTWARDS QUADRUPLE ARROWaRIGHTWARDS QUADRUPLE ARROW",
    "aREVERSE TILDE OPERATOR ABOVE RIGHTWARDS ARROWaRIGHTWARDS ARROW ABOVE REVERSE ALMOST ",
    "EQUAL TOaTILDE OPERATOR ABOVE LEFTWARDS ARROWaLEFTWARDS ARROW ABOVE ALMOST EQUAL TO",
    "dREVERSE TILDE OPERATORaRIGHTWARDS ARROW ABOVE REVERSE TILDE OPERATORaDOWNWARDS ",
    "TRIANGLE-HEADED ZIGZAG ARROWaSHORT SLANTED NORTH ARROWbBACKSLANTED SOUTH ARROWaWHITE ",
    "MEDIUM STARaBLACK SMALL STARaWHITE SMALL STARaBLACK RIGHT-POINTING PENTAGONaWHITE ",
    "RIGHT-POINTING PENTAGONaHEAVY LARGE CIRCLEbOVAL WITH OVAL INSIDEbCIRCLE WITH CIRCLE INSIDE",
    "cbCIRCLED SALTIREaSLANTED NORTH ARROW WITH HOOKED HEADaBACKSLANTED SOUTH ARROW WITH ",
    "HOOKED TAILaSLANTED NORTH ARROW WITH HORIZONTAL TAILaBACKSLANTED SOUTH ARROW WITH ",
    "HORIZONTAL TAILaBENT ARROW POINTING DOWNWARDS THEN NORTH EASTaSHORT BENT ARROW POINTING ",
    "DOWNWARDS THEN NORTH EASTaLEFTWARDS TRIANGLE-HEADED ARROWaUPWARDS TRIANGLE-HEADED ARROW",
    "aRIGHTWARDS TRIANGLE-HEADED ARROWaDOWNWARDS TRIANGLE-HEADED ARROWaLEFT RIGHT ",
    "TRIANGLE-HEADED ARROWaUP DOWN TRIANGLE-HEADED ARROWaNORTH WEST TRIANGLE-HEADED ARROWbEAST ",
    "TRIANGLE-HEADED ARROWaSOUTH EAST TRIANGLE-HEADED ARROWbWEST TRIANGLE-HEADED ARROW",
    "aLEFTWARDS TRIANGLE-HEADED DASHED ARROWaUPWARDS TRIANGLE-HEADED DASHED ARROWaRIGHTWARDS ",
    "TRIANGLE-HEADED DASHED ARROWaDOWNWARDS TRIANGLE-HEADED DASHED ARROWaCLOCKWISE ",
    "TRIANGLE-HEADED OPEN CIRCLE ARROWaANTICLOCKWISE TRIANGLE-HEADED OPEN CIRCLE ARROW",
    "aLEFTWARDS TRIANGLE-HEADED ARROW TO BARaUPWARDS TRIANGLE-HEADED ARROW TO BARaRIGHTWARDS ",
    "TRIANGLE-HEADED ARROW TO BARaDOWNWARDS TRIANGLE-HEADED ARROW TO BAR"]⟩,
   ⟨0x2B76, ["aNORTH WEST TRIANGLE-HEADED ARROW TO BARbEAST TRIANGLE-HEADED ARROW TO BAR",
    "aSOUTH EAST TRIANGLE-HEADED ARROW TO BARbWEST TRIANGLE-HEADED ARROW TO BARaLEFTWARDS ",
    "TRIANGLE-HEADED ARROW WITH DOUBLE HORIZONTAL STROKEaUPWARDS TRIANGLE-HEADED ARROW WITH ",
    "DOUBLE HORIZONTAL STROKEaRIGHTWARDS TRIANGLE-HEADED ARROW WITH DOUBLE HORIZONTAL STROKE",
    "aDOWNWARDS TRIANGLE-HEADED ARROW WITH DOUBLE HORIZONTAL STROKEaHORIZONTAL TAB KEY",
    "aVERTICAL TAB KEYaLEFTWARDS TRIANGLE-HEADED ARROW OVER RIGHTWARDS TRIANGLE-HEADED ARROW",
    "aUPWARDS TRIANGLE-HEADED ARROW LEFTWARDS OF DOWNWARDS TRIANGLE-HEADED ARROWaRIGHTWARDS ",
    "TRIANGLE-HEADED ARROW OVER LEFTWARDS TRIANGLE-HEADED ARROWaDOWNWARDS TRIANGLE-HEADED ",
    "ARROW LEFTWARDS OF UPWARDS TRIANGLE-HEADED ARROWaLEFTWARDS TRIANGLE-HEADED PAIRED ARROWS",
    "aUPWARDS TRIANGLE-HEADED PAIRED ARROWSaRIGHTWARDS TRIANGLE-HEADED PAIRED ARROWSaDOWNWARDS ",
    "TRIANGLE-HEADED PAIRED ARROWSaLEFTWARDS BLACK CIRCLED WHITE ARROWaUPWARDS BLACK CIRCLED ",
    "WHITE ARROWaRIGHTWARDS BLACK CIRCLED WHITE ARROWaDOWNWARDS BLACK CIRCLED WHITE ARROW",
    "aANTICLOCKWISE TRIANGLE-HEADED RIGHT U-SHAPED ARROWcBOTTOM U-SHAPED ARROWcLEFT U-SHAPED ",
    "ARROWcTOP U-SHAPED ARROWaRETURN LEFTbRIGHTaNEWLINE LEFTbRIGHTaFOUR CORNER ARROWS CIRCLING ",
    "ANTICLOCKWISEaRIGHTWARDS BLACK ARROW"]⟩,
   ⟨0x2B97, ["aSYMBOL FOR TYPE A ELECTRONICSaTHREE-D TOP-LIGHTED LEFTWARDS EQUILATERAL ",
    "ARROWHEADbRIGHT-LIGHTED UPWARDS EQUILATERAL ARROWHEADbTOP-LIGHTED RIGHTWARDS EQUILATERAL ",
    "ARROWHEADbLEFT-LIGHTED DOWNWARDS EQUILATERAL ARROWHEADaBLACK LEFTWARDS EQUILATERAL ",
    "ARROWHEADbUPWARDS EQUILATERAL ARROWHEADbRIGHTWARDS EQUILATERAL ARROWHEADbDOWNWARDS ",
    "EQUILATERAL ARROWHEADaDOWNWARDS TRIANGLE-HEADED ARROW WITH LONG TIP LEFTWARDSgRIGHTWARDS",
    "aUPWARDS TRIANGLE-HEADED ARROW WITH LONG TIP LEFTWARDSgRIGHTWARDSaLEFTWARDS ",
    "TRIANGLE-HEADED ARROW WITH LONG TIP UPWARDSaRIGHTWARDS TRIANGLE-HEADED ARROW WITH LONG ",
    "TIP UPWARDSaLEFTWARDS TRIANGLE-HEADED ARROW WITH LONG TIP DOWNWARDSaRIGHTWARDS ",
    "TRIANGLE-HEADED ARROW WITH LONG TIP DOWNWARDSaBLACK CURVED DOWNWARDS AND LEFTWARDS ARROW",
    "eRIGHTWARDS ARROWcUPWARDS AND LEFTWARDS ARROWeRIGHTWARDS ARROWcLEFTWARDS AND UPWARDS ARROW",
    "cRIGHTWARDS AND UPWARDS ARROWcLEFTWARDS AND DOWNWARDS ARROWcRIGHTWARDS AND DOWNWARDS ARROW",
    "aRIBBON ARROW DOWN LEFTdRIGHTcUP LEFTdRIGHTcLEFT UPcRIGHT UPcLEFT DOWNcRIGHT DOWNaUPWARDS ",
    "WHITE ARROW FROM BAR WITH HORIZONTAL BARaUP ARROWHEAD IN A RECTANGLE BOXaOVERLAPPING ",
    "WHITE SQUAREScAND BLACK SQUARESbBLACK SQUARESaBALLOT BOX WITH LIGHT XaCIRCLED XbBOLD X",
    "aBLACK SQUARE CENTREDbDIAMOND CENTREDaTURNED BLACK PENTAGONaHORIZONTAL BLACK OCTAGON",
    "aBLACK OCTAGONbMEDIUM UP-POINTING TRIANGLE CENTREDcDOWN-POINTING TRIANGLE CENTRED",
    "cLEFT-POINTING TRIANGLE CENTREDcRIGHT-POINTING TRIANGLE CENTREDaNEPTUNE FORM TWOaTOP HALF ",
    "BLACK CIRCLEaBOTTOM HALF BLACK CIRCLEaLIGHT FOUR POINTED BLACK CUSPaROTATED LIGHT FOUR ",
    "POINTED BLACK CUSPaWHITE FOUR POINTED CUSPaROTATED WHITE FOUR POINTED CUSPaSQUARE ",
    "POSITION INDICATORaUNCERTAINTY SIGNaGROUP MARKaPLUTO FORM TWOcTHREEcFOURcFIVEaTRANSPLUTO",
    "aPROSERPINAaASTRAEAaHYGIEAaPHOLUSaNESSUSaWHITE MOON SELENAaBLACK DIAMOND ON CROSSaTRUE ",
    "LIGHT MOON ARTAaCUPIDOaHADESaZEUSaKRONOSaAPOLLONaADMETOSaVULCANUSaPOSEIDONaLEFT HALF ",
    "BLACK STARaRIGHT HALF BLACK STARaSTAR WITH LEFT HALF BLACKcRIGHT HALF BLACKaLEFTWARDS ",
    "TWO-HEADED ARROW WITH TRIANGLE ARROWHEADSaUPWARDS TWO-HEADED ARROW WITH TRIANGLE ",
    "ARROWHEADSaRIGHTWARDS TWO-HEADED ARROW WITH TRIANGLE ARROWHEADSaDOWNWARDS TWO-HEADED ",
    "ARROW WITH TRIANGLE ARROWHEADSaERIS FORM ONEcTWOaSEDNAaRUSSIAN ASTROLOGICAL SYMBOL ",
    "VIGINTILEdNOVILEdQUINTILEdBINOVILEdSENTAGONdTREDECILEaEQUALS SIGN WITH INFINITY BELOW",
    "aUNITED SYMBOLaSEPARATED SYMBOLaDOUBLED SYMBOLaPASSED SYMBOLaREVERSED RIGHT ANGLE",
    "aHELLSCHREIBER PAUSE SYMBOL"]⟩]

end LitNote.Text.Name
